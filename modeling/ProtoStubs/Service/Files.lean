import ProtoStubs.OutputFile
import ProtoStubs.Service.Node
import ProtoStubs.Service.WebScript

/-! The files that hold the stubs of a schema file's services. -/

namespace ProtoStubs.Service

def webFiles (promises : Bool) (f : File) : List OutputFile :=
  let base := SourcePath.modulePath f.name ++ "_service"
  [⟨base ++ ".d.ts", Layout.render (Web.lines promises f)⟩,
    ⟨base ++ ".js", Layout.render (WebScript.lines promises f)⟩]

def nodeFiles (mode : Mode) (f : File) : List OutputFile :=
  [⟨SourcePath.stem f.name ++ "_grpc_pb.d.ts", Layout.render (Node.lines mode f)⟩]

def File.outputs (parameters : Parameters) (f : File) : List OutputFile :=
  match parameters.service with
  | .none => []
  | .grpcWeb => webFiles false f
  | .grpcPromise => webFiles true f
  | .grpcNode => nodeFiles parameters.mode f

def files (index : TypeIndex) (parameters : Parameters) (f : Schema.File) :
    Except GenerationError (List OutputFile) :=
  if parameters.service = .none ∨ f.services = [] then .ok []
  else do return (← File.link index f).outputs parameters

end ProtoStubs.Service
