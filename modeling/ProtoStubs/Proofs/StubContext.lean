import ProtoStubs.Proofs.Artifacts
import ProtoStubs.Proofs.Indexing
import ProtoStubs.Proofs.Recording

/-!
# What the templates are told

The templates of the stubs are told of the services of a file with the names of all types, and of the imports.
Both come from one run over the methods that puts the file of each type on record, and it fails exactly where a
type is no message.
-/

namespace ProtoStubs

def Schema.File.methodTypeNames (f : Schema.File) : List String :=
  f.services.flatMap fun s => s.methods.flatMap fun m => [m.inputType, m.outputType]

namespace Service

section Failure

variable {index : TypeIndex}

theorem Method.failure?_link (viewer : String) (m : Schema.Method) :
    failure? (Method.link index viewer m) =
      [m.inputType, m.outputType].findSome? fun name => failure? (index.resolve .message name viewer) := by
  simp only [Method.link, List.findSome?_cons, List.findSome?_nil]
  cases index.resolve .message m.inputType viewer with
  | error e => rfl
  | ok request => cases index.resolve .message m.outputType viewer <;> rfl

theorem File.failure?_link (f : Schema.File) :
    failure? (File.link index f) =
      f.methodTypeNames.findSome? fun name => failure? (index.resolve .message name f.name) := by
  have hstub (s : Schema.Service) : failure? (Stub.link index f.name s) =
      s.methods.findSome? fun m => failure? (Method.link index f.name m) :=
    (failure?_bind_pure _ _).trans (failure?_mapM _ _)
  have hfile : failure? (File.link index f) =
      f.services.findSome? fun s => failure? (Stub.link index f.name s) :=
    (failure?_bind_pure _ _).trans (failure?_mapM _ _)
  simp only [hfile, hstub, Method.failure?_link, Schema.File.methodTypeNames, findSome?_flatMap]

theorem failure?_files {parameters : Parameters} {f : Schema.File} (hvariant : parameters.service ≠ .none)
    (hservices : f.services ≠ []) :
    failure? (files index parameters f) =
      f.methodTypeNames.findSome? fun name => failure? (index.resolve .message name f.name) := by
  rw [files_eq_link hvariant hservices, ← File.failure?_link]
  exact failure?_bind_pure _ _

end Failure

/-- What a template is told of a method. -/
structure MethodContext where
  name : String
  clientName : String
  path : String
  shape : Schema.CallShape
  serverHandler : String
  requestType : String
  responseType : String
  requestStream : String
  responseStream : String

structure ServiceContext where
  name : String
  fullName : String
  methods : List MethodContext

/-- What a template is told of a file. An import has a name and a path. -/
structure Context where
  package : String
  fileName : String
  services : List ServiceContext
  imports : List (String × String)

def Method.context (s : Stub) (m : Method) : MethodContext where
  name := m.name
  clientName := m.clientName
  path := s.path m
  shape := m.shape
  serverHandler := Node.serverHandler m.shape
  requestType := m.requestType
  responseType := m.responseType
  requestStream := m.requestStream
  responseStream := m.responseStream

def Stub.context (s : Stub) : ServiceContext where
  name := s.name
  fullName := s.fullName
  methods := s.methods.map (Method.context s)

def File.context (f : File) : Context where
  package := f.package
  fileName := f.name
  services := f.services.map Stub.context
  imports := f.imports.map fun g => (SourcePath.namespaceName g, SourcePath.importPath f.name g)

section Build

variable (index : TypeIndex)

/-- A type of a method. Its file goes on record, whichever it is. -/
def askType (viewer name : String) : Recording Export := do
  let e ← Recording.ofExcept (index.resolve .message name viewer)
  Recording.note e.fileName
  return e

def buildMethod (viewer : String) (s : Schema.Service) (m : Schema.Method) : Recording MethodContext := do
  let request ← askType index viewer m.inputType
  let response ← askType index viewer m.outputType
  return {
    name := m.name
    clientName := Text.lowerFirst m.name
    path := "/" ++ s.fullName ++ "/" ++ m.name
    shape := m.shape
    serverHandler := Node.serverHandler m.shape
    requestType := request.namespacedName
    responseType := response.namespacedName
    requestStream := if m.clientStreaming then "true" else "false"
    responseStream := if m.serverStreaming then "true" else "false" }

def buildService (viewer : String) (s : Schema.Service) : Recording ServiceContext := do
  let methods ← s.methods.mapM (buildMethod index viewer s)
  return { name := s.name, fullName := s.fullName, methods }

/-- The imports are those of the record in the end, which starts with the file itself. -/
def build (f : Schema.File) : Recording Context := do
  let services ← f.services.mapM (buildService index f.name)
  return {
    package := f.package
    fileName := f.name
    services
    imports := (← get).map fun g => (SourcePath.namespaceName g, SourcePath.importPath f.name g) }

end Build

section Built

variable {index : TypeIndex} {viewer : String}

open Recording (Asks keep)

def askMethod (index : TypeIndex) (viewer : String) (m : Schema.Method) : Recording Method := do
  let request ← askType index viewer m.inputType
  let response ← askType index viewer m.outputType
  return { source := m, request, response }

def askStub (index : TypeIndex) (viewer : String) (s : Schema.Service) : Recording Stub := do
  let methods ← s.methods.mapM (askMethod index viewer)
  return { name := s.name, fullName := s.fullName, methods }

theorem asks_type (name : String) :
    Asks keep (askType index viewer name) (index.resolve .message name viewer) fun e => [e.fileName] := by
  intro seen
  rw [askType, Recording.outcome_bind, Recording.outcome_ofExcept]
  cases index.resolve .message name viewer with
  | error e => exact ⟨rfl, fun a ha => nomatch ha⟩
  | ok e => exact ⟨rfl, fun a ha => by cases ha; rfl⟩

def Method.origins (m : Method) : List String := [m.request.fileName, m.response.fileName]

theorem asks_method (m : Schema.Method) :
    Asks keep (askMethod index viewer m) (Method.link index viewer m) Method.origins := by
  refine Asks.bind (fun _ m' => [m'.response.fileName]) (asks_type m.inputType)
    (fun e => Asks.map (asks_type m.outputType) (fun e' => (⟨m, e, e'⟩ : Method)) fun _ => rfl) fun e m' h => ?_
  obtain ⟨e', -, h⟩ := bind_eq_ok.mp h
  rw [← pure_eq_ok.mp h]
  rfl

theorem asks_stub (s : Schema.Service) :
    Asks keep (askStub index viewer s) (Stub.link index viewer s) (·.methods.flatMap Method.origins) :=
  Asks.map (Asks.mapM fun m (_ : m ∈ s.methods) => asks_method m)
    (fun methods => (⟨s.name, s.fullName, methods⟩ : Stub)) fun _ => rfl

theorem buildService_eq (index : TypeIndex) (viewer : String) :
    buildService index viewer = fun s => do return (← askStub index viewer s).context := by
  funext s
  have hmethod : buildMethod index viewer s = fun m => do
      return (← askMethod index viewer m).context ⟨s.name, s.fullName, []⟩ := by
    funext m
    simp only [buildMethod, askMethod, bind_assoc, pure_bind]
    rfl
  rw [buildService, hmethod, Recording.mapM_return, askStub, bind_assoc, bind_assoc]
  rfl

theorem foldl_keep (viewer : String) (seen files : List String) :
    files.foldl keep (viewer :: seen) = viewer :: files.foldl (noteFile viewer) seen := by
  induction files generalizing seen with
  | nil => rfl
  | cons file files ih =>
    have hkeep : keep (viewer :: seen) file = viewer :: noteFile viewer seen file := by
      unfold keep noteFile
      simp only [List.mem_cons]
      split_ifs <;> rfl
    rw [List.foldl_cons, List.foldl_cons, hkeep, ih]

/-- What the templates are told is the linked file, with the imports in the order of the first use. -/
theorem outcome_build (f : Schema.File) :
    ((build index f).outcome [f.name]).1 = (File.link index f).map File.context ∧
      ∀ s, File.link index f = .ok s → ((build index f).outcome [f.name]).2 = s.imports := by
  have hservices := Asks.mapM fun s (_ : s ∈ f.services) => @asks_stub index f.name s
  have hbuild : build index f = do
      let stubs ← f.services.mapM (askStub index f.name)
      let seen ← get
      return {
        package := f.package
        fileName := f.name
        services := stubs.map Stub.context
        imports := seen.map fun g => (SourcePath.namespaceName g, SourcePath.importPath f.name g) } := by
    rw [build, buildService_eq, Recording.mapM_return, bind_assoc]
    rfl
  rw [hbuild, File.link]
  cases hstubs : f.services.mapM (Stub.link index f.name) with
  | error e =>
    rw [hstubs] at hservices
    rw [Recording.outcome_bind_of_error (hservices.outcome_of_error _)]
    exact ⟨rfl, fun s hs => nomatch hs⟩
  | ok stubs =>
    rw [hstubs] at hservices
    rw [Recording.outcome_bind_of_ok (hservices.outcome_of_ok _), foldl_keep]
    refine ⟨rfl, fun s hs => ?_⟩
    cases hs
    rfl

end Built

end Service

end ProtoStubs
