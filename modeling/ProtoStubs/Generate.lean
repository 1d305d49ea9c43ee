import ProtoStubs.Declaration.Print
import ProtoStubs.Schema.Load
import ProtoStubs.Service.Files

/-! A generation run: the parameters are decoded, all files are loaded, all their types are indexed,
and then the output of each requested file is made. -/

namespace ProtoStubs

structure Response where
  -- Fields with explicit presence are understood.
  supportedFeatures : Nat := 1
  files : List OutputFile
  deriving DecidableEq

namespace Generate

/-- The parameter string in force: the one given from outside, even if it is empty, or else the
request's own. -/
def effectiveParameter (request : Descriptor.Request) (override : Option String) : String :=
  override.getD (request.parameter.getD "")

def fileNamed? (files : List Schema.File) (name : String) : Option Schema.File :=
  (files.filter (·.name == name)).getLast?

def outputs (index : TypeIndex) (parameters : Parameters) (f : Schema.File) :
    Except GenerationError (List OutputFile) := do
  let declaration ← Declaration.text index f
  let stubs ← Service.files index parameters f
  return ⟨SourcePath.modulePath f.name ++ ".d.ts", declaration⟩ :: stubs

def outputsFor (files : List Schema.File) (index : TypeIndex) (parameters : Parameters)
    (name : String) : Except GenerationError (List OutputFile) := do
  outputs index parameters (← require (.missingFile name) (fileNamed? files name))

end Generate

def generate (request : Descriptor.Request) (override : Option String) :
    Except GenerationError Response := do
  let parameters ← Parameters.parse (Generate.effectiveParameter request override)
  let files ← request.files.mapM Schema.File.load
  let index ← TypeIndex.ofFiles files
  let outputs ← request.filesToGenerate.mapM (Generate.outputsFor files index parameters)
  return { files := outputs.flatten }

def generationNotices (request : Descriptor.Request) (override : Option String) : List Notice :=
  Parameters.notices (Generate.effectiveParameter request override)

end ProtoStubs
