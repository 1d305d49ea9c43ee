import ProtoStubs.Proofs.NamedStubs
import ProtoStubs.Proofs.ReadDeclared
import ProtoStubs.Proofs.ReadScripted

/-!
# A client in its declaration and in its script

The declaration and the script of a client are two texts, and both are read. They load the same modules and
describe the same services, and each function of a client in the script fits the signatures that the
declaration has for it.
-/

namespace ProtoStubs.Service

open WebScript (Answer Effect Function)

namespace WebScript

def Effect.shorter? (parameters : List String) : Effect → Option (List String)
  | .shifted count position parameter => some ((parameters.take count).set position parameter)
  | _ => none

def Effect.call? : Effect → Option (String × String)
  | .called function description => some (function, description)
  | _ => none

def Effect.event? : Effect → Option String
  | .listened event => some event
  | _ => none

def Effect.answer? : Effect → Option Answer
  | .returned answer => some answer
  | _ => none

/-- The parameters of the function, and those of the shorter calls that it takes as well. -/
def Function.parameterLists (φ : Function) : List (List String) :=
  φ.parameters :: φ.effects.filterMap (Effect.shorter? φ.parameters)

/-- The answer fits a declared result: a promise, or an object with the members of an interface that tells
its handlers the events of the function. -/
def Answer.Fits (interfaces : List Interface) (events : List String) (result : List String) : Answer → Prop
  | .promise => result.head? = some "Promise"
  | .object members => ∃ i ∈ interfaces, result.head? = some i.name ∧
      (∀ member, member ∈ i.members ↔ member ∈ members) ∧ i.events = events

end WebScript

/-- A function fits the signatures of a call. It has the parameters of each of them, hands the runtime the
description of the method, and what it returns fits their results. -/
structure Implements (interfaces : List Interface) (signatures : List Signature) (description : String)
    (φ : Function) : Prop where
  name : ∀ σ ∈ signatures, σ.name = φ.name
  parameters : signatures.map (fun σ => σ.parameters.map (·.name)) = φ.parameterLists
  call : ∃ function, φ.effects.filterMap Effect.call? = [(function, description)]
  result : ∃ answer, φ.effects.filterMap Effect.answer? = [answer] ∧
    ∀ σ ∈ signatures, answer.Fits interfaces (φ.effects.filterMap Effect.event?) σ.result

structure Description.Of (index : TypeIndex) (service : String) (m : Schema.Method) (d : Description) :
    Prop where
  service : d.service = service
  name : d.name = m.name
  requestStream : d.requestStream = if m.clientStreaming then "true" else "false"
  responseStream : d.responseStream = if m.serverStreaming then "true" else "false"
  shape : d.shape = m.shape
  request : ∃ e, index.find? .message m.inputType = some e ∧ d.requestType = e.namespacedName
  response : ∃ e, index.find? .message m.outputType = some e ∧ d.responseType = e.namespacedName

structure Described.Of (index : TypeIndex) (s : Schema.Service) (d : Described) : Prop where
  name : d.name = s.name
  methods : List.Forall₂ (Description.Of index s.name) s.methods d.methods

theorem Description.implements (promises : Bool) (d : Description) :
    Implements (Web.results promises) (d.signatures promises) (d.service ++ "." ++ d.name)
      (d.function promises) := by
  rw [Description.signatures, Description.function]
  cases d.shape with
  | unary =>
    cases promises with
    | true =>
      refine ⟨by simp, rfl, ⟨_, rfl⟩, .promise, rfl, ?_⟩
      exact List.forall_mem_singleton.mpr rfl
    | false =>
      have hresult : Web.unaryResult ∈ Web.results false := by simp [Web.results]
      refine ⟨by simp, rfl, ⟨_, rfl⟩, .object [("cancel", 0)], rfl, ?_⟩
      have hfits : (Answer.object [("cancel", 0)]).Fits (Web.results false) [] ["UnaryResponse"] :=
        ⟨_, hresult, rfl, fun _ => Iff.rfl, rfl⟩
      exact List.forall_mem_cons.mpr ⟨hfits, List.forall_mem_singleton.mpr hfits⟩
  | serverStreaming =>
    refine ⟨by simp, rfl, ⟨_, rfl⟩, .object [("on", 2), ("cancel", 0)], rfl, ?_⟩
    refine List.forall_mem_singleton.mpr ⟨Web.responseResult, by simp [Web.results], rfl, ?_, rfl⟩
    simp [Web.responseResult, or_comm]
  | clientStreaming =>
    refine ⟨by simp, rfl, ⟨_, rfl⟩, .object [("on", 2), ("write", 1), ("end", 0), ("cancel", 0)], rfl, ?_⟩
    refine List.forall_mem_singleton.mpr ⟨Web.requestResult, by simp [Web.results], rfl, ?_, rfl⟩
    simp [Web.requestResult, or_assoc, or_comm, or_left_comm]
  | bidiStreaming =>
    refine ⟨by simp, rfl, ⟨_, rfl⟩, .object [("on", 2), ("write", 1), ("end", 0), ("cancel", 0)], rfl, ?_⟩
    refine List.forall_mem_singleton.mpr ⟨Web.bidiResult, by simp [Web.results], rfl, ?_, rfl⟩
    simp [Web.bidiResult, or_assoc, or_comm, or_left_comm]

theorem Method.description_of_link {index : TypeIndex} {viewer : String} {m : Schema.Method} {m' : Method}
    (s : Stub) (h : Method.link index viewer m = .ok m') : (s.describe m').Of index s.name m := by
  obtain ⟨request, hrequest, h⟩ := bind_eq_ok.mp h
  obtain ⟨response, hresponse, h⟩ := bind_eq_ok.mp h
  cases pure_eq_ok.mp h
  exact ⟨rfl, rfl, rfl, rfl, s.shape_describe _, ⟨request, TypeIndex.resolve_eq_ok.mp hrequest, rfl⟩,
    ⟨response, TypeIndex.resolve_eq_ok.mp hresponse, rfl⟩⟩

theorem Stub.described_of_link {index : TypeIndex} {viewer : String} {s : Schema.Service} {s' : Stub}
    (h : Stub.link index viewer s = .ok s') : s'.described.Of index s := by
  obtain ⟨methods, hmethods, h⟩ := bind_eq_ok.mp h
  cases pure_eq_ok.mp h
  refine ⟨rfl, List.forall₂_map_right_iff.mpr ?_⟩
  exact (mapM_eq_ok.mp hmethods).imp fun m m' hm =>
    Method.description_of_link ⟨s.name, s.fullName, methods⟩ hm

theorem File.described_of_link {index : TypeIndex} {f : Schema.File} {s : File}
    (h : File.link index f = .ok s) :
    List.Forall₂ (Described.Of index) f.services (s.services.map Stub.described) := by
  obtain ⟨stubs, hstubs, h⟩ := bind_eq_ok.mp h
  cases pure_eq_ok.mp h
  exact List.forall₂_map_right_iff.mpr
    ((mapM_eq_ok.mp hstubs).imp fun x stub hstub => Stub.described_of_link hstub)

/-- The declaration and the script of a client are read alike. -/
theorem client_files {ds : List Descriptor.File} {files : List Schema.File} {index : TypeIndex}
    {parameters : Parameters} {f : Schema.File} {outputs : List OutputFile}
    (hload : ds.mapM Schema.File.load = .ok files)
    (hnames : ∀ g ∈ files, g.TypesNamed ∧ ∀ s ∈ g.services, s.Named)
    (hindex : TypeIndex.ofFiles files = .ok index) (hf : f ∈ files) (hservices : f.services ≠ [])
    (promises : Bool) (hvariant : parameters.service = if promises then .grpcPromise else .grpcWeb)
    (h : Service.files index parameters f = .ok outputs) :
    ∃ declaration script services,
      outputs = [⟨SourcePath.modulePath f.name ++ "_service" ++ ".d.ts", declaration⟩,
        ⟨SourcePath.modulePath f.name ++ "_service" ++ ".js", script⟩] ∧
      List.Forall₂ (Described.Of index) f.services services ∧
      Web.read declaration = {
        imports := (f.stubImports index).map (fun target =>
          (SourcePath.namespaceName target, SourcePath.importPath f.name target)) ++
            [("grpc", "@improbable-eng/grpc-web")]
        services := services
        interfaces := Web.results promises
        clients := services.map fun d => ⟨d.name ++ "Client", d.methods.flatMap (·.signatures promises)⟩ } ∧
      WebScript.read script = {
        imports := (Web.read declaration).imports
        services := services
        clients := services.map fun d => ⟨d.name ++ "Client", d.methods.map (·.function promises)⟩
        exports := services.flatMap fun d => [d.name, d.name ++ "Client"] } ∧
      ∀ d ∈ services, ∀ m ∈ d.methods, Implements (Web.read declaration).interfaces (m.signatures promises)
        (d.name ++ "." ++ m.name) (m.function promises) := by
  obtain ⟨d, -, hd⟩ := (mem_results (mapM_eq_ok.mp hload)).mp hf
  have hexports := TypeIndex.named_exports hload hindex fun g hg => (hnames g hg).1
  have hsome : parameters.service ≠ .none := by
    rw [hvariant]
    cases promises <;> decide
  obtain ⟨s, hs, rfl⟩ := exists_link_of_files hsome hservices h
  have hnamed := File.named_of_link hexports hd (hnames f hf).1 (hnames f hf).2 hs
  obtain ⟨hname, -, himports⟩ := File.imports_of_link hs
  have houtputs : s.outputs parameters = webFiles promises s := by
    rw [File.outputs, hvariant]
    cases promises <;> rfl
  have hdeclaration : Web.read (Layout.render (Web.lines promises s)) = {
      imports := (f.stubImports index).map (fun target =>
        (SourcePath.namespaceName target, SourcePath.importPath f.name target)) ++
          [("grpc", "@improbable-eng/grpc-web")]
      services := s.services.map Stub.described
      interfaces := Web.results promises
      clients := (s.services.map Stub.described).map fun d =>
        ⟨d.name ++ "Client", d.methods.flatMap (·.signatures promises)⟩ } := by
    rw [Web.read_lines promises hnamed, Web.declaration, himports, hname, List.map_map]
    simp [Stub.described, List.flatMap_map, Function.comp_def]
  -- Both texts are read as the described stubs, so what one of them says of a call holds of the other.
  refine ⟨Layout.render (Web.lines promises s), Layout.render (WebScript.lines promises s),
    s.services.map Stub.described, ?_, File.described_of_link hs, hdeclaration, ?_, ?_⟩
  · rw [houtputs, webFiles, hname]
  · rw [WebScript.read_lines promises hnamed, WebScript.script, hdeclaration, himports, hname]
    simp [Stub.described, List.flatMap_map, Function.comp_def]
  · rw [hdeclaration]
    intro service hservice m hm
    obtain ⟨stub, -, rfl⟩ := List.mem_map.mp hservice
    obtain ⟨m, -, rfl⟩ := List.mem_map.mp hm
    exact Description.implements promises (stub.describe m)

/-- A service with a call of each shape. -/
def talkDescriptor : Descriptor.File where
  name := some "a/talk.proto"
  package := some "a"
  dependencies := ["b/answer.proto"]
  messages := [{ name := some "Note" }]
  services := [{
    name := some "Talk"
    methods := [
      { name := some "Ask", inputType := some ".a.Note", outputType := some ".b.Answer" },
      { name := some "Listen", inputType := some ".a.Note", outputType := some ".b.Answer",
        serverStreaming := some true },
      { name := some "Tell", inputType := some ".a.Note", outputType := some ".b.Answer",
        clientStreaming := some true },
      { name := some "Chat", inputType := some ".a.Note", outputType := some ".b.Answer",
        clientStreaming := some true, serverStreaming := some true }] }]

def talkFile : Schema.File where
  name := "a/talk.proto"
  package := "a"
  dependencies := ["b/answer.proto"]
  messages := [{ name := "Note", fullName := "a.Note" }]
  services := [{
    name := "Talk"
    fullName := "a.Talk"
    methods := [
      { name := "Ask", inputType := "a.Note", outputType := "b.Answer" },
      { name := "Listen", inputType := "a.Note", outputType := "b.Answer", serverStreaming := true },
      { name := "Tell", inputType := "a.Note", outputType := "b.Answer", clientStreaming := true },
      { name := "Chat", inputType := "a.Note", outputType := "b.Answer", clientStreaming := true,
        serverStreaming := true }] }]

def talkFiles : List Schema.File := [talkFile, {
  name := "b/answer.proto"
  package := "b"
  messages := [{ name := "Answer", fullName := "b.Answer" }]
  enums := [{ name := "Kind", fullName := "b.Kind" }] }]

def talkIndex : TypeIndex where
  exports := [
    { kind := .message, fullName := "a.Note", package := "a", fileName := "a/talk.proto" },
    { kind := .message, fullName := "b.Answer", package := "b", fileName := "b/answer.proto" },
    { kind := .enum, fullName := "b.Kind", package := "b", fileName := "b/answer.proto" }]

theorem talkFile_client :
    [talkDescriptor, answerFile].mapM Schema.File.load = .ok talkFiles ∧
      (∀ g ∈ talkFiles, g.TypesNamed ∧ ∀ s ∈ g.services, s.Named) ∧
      TypeIndex.ofFiles talkFiles = .ok talkIndex ∧
      ∃ declaration script, Service.files talkIndex { service := .grpcWeb } talkFile =
          .ok [⟨"a/talk_pb_service.d.ts", declaration⟩, ⟨"a/talk_pb_service.js", script⟩] ∧
        (WebScript.read script).imports = [("a_talk_pb", "../a/talk_pb"), ("b_answer_pb", "../b/answer_pb"),
          ("grpc", "@improbable-eng/grpc-web")] ∧
        (Web.read declaration).services = (WebScript.read script).services ∧
        (WebScript.read script).services.map (fun d => (d.name, d.methods.map fun m =>
            (m.name, m.requestStream, m.responseStream))) =
          [("Talk", [("Ask", "false", "false"), ("Listen", "false", "true"), ("Tell", "true", "false"),
            ("Chat", "true", "true")])] := by
  have hload : [talkDescriptor, answerFile].mapM Schema.File.load = .ok talkFiles := by rfl
  have hindex : TypeIndex.ofFiles talkFiles = .ok talkIndex := by rfl
  have hnames : ∀ g ∈ talkFiles, g.TypesNamed ∧ ∀ s ∈ g.services, s.Named := by decide
  obtain ⟨outputs, houtputs⟩ : Succeeds (Service.files talkIndex { service := .grpcWeb } talkFile) := by decide
  obtain ⟨declaration, script, services, rfl, hservices, hdeclaration, hscript, -⟩ :=
    client_files hload hnames hindex List.mem_cons_self (by simp [talkFile]) false rfl houtputs
  refine ⟨hload, hnames, hindex, declaration, script, houtputs, ?_, ?_, ?_⟩
  · rw [hscript, hdeclaration]
    rfl
  · rw [hscript, hdeclaration]
  · rw [hscript]
    refine (map_related hservices fun s _ d hd => ?_).trans
      (b := talkFile.services.map fun s => (s.name, s.methods.map fun m =>
        (m.name, if m.clientStreaming then "true" else "false",
          if m.serverStreaming then "true" else "false"))) rfl
    rw [hd.name, map_related hd.methods fun m _ dm hdm => by
      rw [hdm.name, hdm.requestStream, hdm.responseStream]]

end ProtoStubs.Service
