import ProtoStubs.TypeExpr

/-! The services of a file with the types of their methods resolved. The stubs name every type
through the import of its file, also a type of the file itself. -/

namespace ProtoStubs.Service

structure Method where
  source : Schema.Method
  request : Export
  response : Export
  deriving DecidableEq

structure Stub where
  name : String
  fullName : String
  methods : List Method
  deriving DecidableEq

structure File where
  name : String
  package : String
  services : List Stub
  deriving DecidableEq

namespace Method

def name (m : Method) : String := m.source.name

def clientName (m : Method) : String := Text.lowerFirst m.source.name

def shape (m : Method) : Schema.CallShape := m.source.shape

def requestType (m : Method) : String := m.request.namespacedName

def responseType (m : Method) : String := m.response.namespacedName

def requestStream (m : Method) : String := if m.source.clientStreaming then "true" else "false"

def responseStream (m : Method) : String := if m.source.serverStreaming then "true" else "false"

def link (index : TypeIndex) (viewer : String) (m : Schema.Method) :
    Except GenerationError Method := do
  let request ← index.resolve .message m.inputType viewer
  let response ← index.resolve .message m.outputType viewer
  return { source := m, request, response }

end Method

def Stub.path (s : Stub) (m : Method) : String := "/" ++ s.fullName ++ "/" ++ m.name

def Stub.link (index : TypeIndex) (viewer : String) (s : Schema.Service) :
    Except GenerationError Stub := do
  return { name := s.name, fullName := s.fullName,
           methods := ← s.methods.mapM (Method.link index viewer) }

def File.link (index : TypeIndex) (f : Schema.File) : Except GenerationError File := do
  return { name := f.name, package := f.package,
           services := ← f.services.mapM (Stub.link index f.name) }

def File.origins (f : File) : List String :=
  f.services.flatMap fun s => s.methods.flatMap fun m => [m.request.fileName, m.response.fileName]

def File.imports (f : File) : List String :=
  f.name :: foreignFiles f.name f.origins

end ProtoStubs.Service
