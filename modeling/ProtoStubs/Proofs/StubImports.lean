import ProtoStubs.Proofs.TopLines
import ProtoStubs.Proofs.TypedLines

/-!
# The imports of stubs

The stubs of a file name every type through the import of its file. They are made exactly if each type of a
method is a message, and then they import the own module of the file and after it each other file that
declares such a type, once and in the order of the first use.
-/

namespace ProtoStubs

namespace Service

open Layout

def isBinding (content : String) : Bool := Text.startsWith "var " content && Text.endsWith ";" content

section NoImports

variable (promises : Bool) (s : Stub) (m : Method)

theorem not_isBinding_of_lead {lead : String} (h : Text.differ "var ".toList lead.toList = true)
    (rest : String) : isBinding (lead ++ rest) = false := by
  rw [isBinding, Text.startsWith_of_differ h, Bool.false_and]

theorem not_isBinding_of_tail {tail : String} (h : Text.differ ";".toList.reverse tail.toList.reverse = true)
    (rest : String) : isBinding (rest ++ tail) = false := by
  rw [isBinding, Text.endsWith_of_differ h, Bool.and_false]

/-- A block of a script opens with a brace and ends with one, so neither end binds a module. -/
theorem lacks_binding_braced (head tail : String) (body : List Line) :
    Lacks isBinding (braced head body tail) :=
  Lacks.braced (not_isBinding_of_tail rfl head) (not_isBinding_of_lead rfl tail)

theorem lacks_import_methodType : Lacks isImport (Web.methodType s m) := by
  refine lacks_append.mpr ⟨lacks_blank _, ?_⟩
  rw [String.append_assoc, String.append_assoc]
  exact lacks_import_braced rfl _ _ _

theorem lacks_import_webService : Lacks isImport (Web.serviceLines s) := by
  refine lacks_append.mpr ⟨Lacks.flatMap fun m _ => lacks_import_methodType s m, ?_⟩
  refine lacks_append.mpr ⟨lacks_blank _, ?_⟩
  rw [String.append_assoc]
  exact lacks_import_braced rfl _ _ _

theorem lacks_import_sharedTypes : Lacks isImport (Web.sharedTypes promises) := by
  cases promises <;> decide

theorem lacks_import_clientClass : Lacks isImport (Web.clientClass promises s) := by
  refine lacks_append.mpr ⟨lacks_blank _, ?_⟩
  rw [String.append_assoc]
  exact lacks_import_braced rfl _ _ _

theorem lacks_import_nodeService : Lacks isImport (Node.serviceLines s) := by
  have hdefinition : Lacks isImport (Node.serviceDefinition s) := by
    refine lacks_append.mpr ⟨lacks_blank _, ?_⟩
    rw [String.append_assoc]
    exact lacks_import_braced rfl _ _ _
  have hmethods : Lacks isImport (s.methods.flatMap (Node.methodDefinition s)) := by
    refine Lacks.flatMap fun m _ => lacks_append.mpr ⟨lacks_blank _, ?_⟩
    simp only [String.append_assoc]
    exact lacks_import_braced rfl _ _ _
  have hserver : Lacks isImport (Node.serverInterface s) := by
    refine lacks_append.mpr ⟨lacks_blank _, ?_⟩
    rw [String.append_assoc]
    exact lacks_import_braced rfl _ _ _
  have hclient : Lacks isImport (Node.clientClass s) := by
    refine lacks_append.mpr ⟨lacks_blank _, ?_⟩
    rw [String.append_assoc]
    exact lacks_import_braced rfl _ _ _
  have hconst : Lacks isImport
      [.blank, line ("export const " ++ s.name ++ "Service: " ++ Node.definitionName s ++ ";")] := by
    refine lacks_append.mpr ⟨lacks_blank _, List.forall_mem_singleton.mpr ?_⟩
    simp only [String.append_assoc]
    exact not_isImport rfl _
  simp only [Node.serviceLines, lacks_append]
  exact ⟨⟨⟨⟨hdefinition, hmethods⟩, hconst⟩, hserver⟩, hclient⟩

theorem lacks_binding_clientMember : Lacks isBinding (WebScript.clientMember promises s m) := by
  unfold WebScript.clientMember
  cases m.shape with
  | unary => cases promises <;> exact lacks_binding_braced _ _ _
  | serverStreaming => exact lacks_binding_braced _ _ _
  | clientStreaming => exact lacks_binding_braced _ _ _
  | bidiStreaming => exact lacks_binding_braced _ _ _

theorem lacks_binding_exportLine (name : String) :
    Lacks isBinding [.blank, WebScript.exportLine name] := by
  refine lacks_append.mpr ⟨lacks_blank _, List.forall_mem_singleton.mpr ?_⟩
  simp only [WebScript.exportLine, String.append_assoc]
  exact not_isBinding_of_lead rfl _

theorem lacks_binding_scriptService : Lacks isBinding (WebScript.serviceLines promises s) := by
  have hblock (head tail : String) (body : List Line) : Lacks isBinding ([.blank] ++ braced head body tail) := by
    rw [lacks_append]
    exact ⟨lacks_blank _, lacks_binding_braced head tail body⟩
  have hobjects : Lacks isBinding (s.methods.flatMap (WebScript.methodObject s)) := by
    refine Lacks.flatMap fun m _ => ?_
    rw [WebScript.methodObject]
    exact hblock _ _ _
  have hmembers : Lacks isBinding (s.methods.flatMap fun m => .blank :: WebScript.clientMember promises s m) :=
    Lacks.flatMap fun m _ => lacks_append.mpr ⟨lacks_blank _, lacks_binding_clientMember promises s m⟩
  have hservice : Lacks isBinding (WebScript.serviceObject s) := by
    rw [WebScript.serviceObject]
    exact hblock _ _ _
  have hclient : Lacks isBinding (WebScript.clientConstructor s) := by
    rw [WebScript.clientConstructor]
    exact hblock _ _ _
  simp only [WebScript.serviceLines, lacks_append]
  exact ⟨⟨⟨⟨⟨hservice, hobjects⟩, lacks_binding_exportLine s.name⟩, hclient⟩, hmembers⟩,
    lacks_binding_exportLine _⟩

end NoImports

end Service

namespace Artifact

open Layout

def isImport : Artifact → Line → Bool
  | .declaration | .webDeclaration | .nodeDeclaration => isTop Layout.isImport
  | .webScript => isTop Service.isBinding

def runtimeLine (mode : Mode) : Artifact → String
  | .declaration => "import * as jspb from \"google-protobuf\";"
  | .webDeclaration => "import " ++ openBrace ++ "grpc" ++ closeBrace ++ " from \"@improbable-eng/grpc-web\";"
  | .webScript => "var grpc = require(\"@improbable-eng/grpc-web\").grpc;"
  | .nodeDeclaration =>
    match mode with
    | .none => "import * as grpc from \"grpc\";"
    | .grpcJs => "import * as grpc from \"@grpc/grpc-js\";"

/-- Stubs import what their template is told, and after it the runtime. -/
def importLines (mode : Mode) (c : Service.Context) (a : Artifact) : List Line :=
  (c.imports.map fun p => line (a.bindingLine p.1 p.2)) ++ [line (a.runtimeLine mode)]

/-- The lines of an artifact, of which the outermost ones that bind a module are those of the imports. Behind
them, the typed lines stand in a given frame. -/
structure Shows (parameters : Parameters) (f : Schema.File) (c : Service.Context) (frame : Frame)
    (a : Artifact) (ls : List Line) : Prop where
  imports : ls.filter a.isImport = a.importLines parameters.mode c
  body : ∃ rest, ls = a.head f ++ a.importLines parameters.mode c ++ rest ∧
    Fills frame (a.typedLines parameters.service c.services) rest

end Artifact

namespace Service

open Layout

theorem isImport_bindingLine (name path : String) :
    isImport (Artifact.webDeclaration.bindingLine name path) = true := by
  have hlead : Artifact.webDeclaration.bindingLine name path =
      "import " ++ "* as " ++ name ++ " from \"" ++ path ++ "\";" := rfl
  rw [hlead]
  simp only [String.append_assoc]
  exact Text.startsWith_append _ _

theorem isBinding_bindingLine (name path : String) :
    isBinding (Artifact.webScript.bindingLine name path) = true := by
  have hlead : Artifact.webScript.bindingLine name path =
      "var " ++ name ++ " = require(\"" ++ path ++ "\");" := rfl
  have htail : Artifact.webScript.bindingLine name path =
      "var " ++ name ++ " = require(\"" ++ path ++ ("\")" ++ ";") := rfl
  rw [isBinding, Bool.and_eq_true]
  constructor
  · rw [hlead]
    simp only [String.append_assoc]
    exact Text.startsWith_append _ _
  · rw [htail, ← String.append_assoc]
    exact Text.endsWith_append _ _

end Service

namespace Artifact

open Layout

section Parts

variable (a : Artifact) (mode : Mode) (c : Service.Context)

theorem isImport_of_mem_importLines {l : Line} (h : l ∈ a.importLines mode c) : a.isImport l = true := by
  rw [importLines, List.mem_append, List.mem_map, List.mem_singleton] at h
  rcases h with ⟨p, -, rfl⟩ | rfl
  · cases a with
    | declaration | webDeclaration | nodeDeclaration => exact Service.isImport_bindingLine p.1 p.2
    | webScript => exact Service.isBinding_bindingLine p.1 p.2
  · cases a <;> cases mode <;> rfl

theorem shows_of_parts {parameters : Parameters} {f : Schema.File} {frame : Frame} {head rest : List Line}
    (hhead : head = a.head f) (hhead_lacks : ∀ l ∈ head, a.isImport l = false)
    (hrest_lacks : ∀ l ∈ rest, a.isImport l = false)
    (hframe : Fills frame (a.typedLines parameters.service c.services) rest) :
    a.Shows parameters f c frame (head ++ a.importLines parameters.mode c ++ rest) := by
  have hlacks {ls : List Line} (h : ∀ l ∈ ls, a.isImport l = false) : ls.filter a.isImport = [] :=
    List.filter_eq_nil_iff.mpr fun l hl => by rw [h l hl]; exact Bool.false_ne_true
  have himports : (a.importLines parameters.mode c).filter a.isImport = a.importLines parameters.mode c :=
    List.filter_eq_self.mpr fun l hl => a.isImport_of_mem_importLines parameters.mode c hl
  constructor
  · rw [List.filter_append, List.filter_append, hlacks hhead_lacks, hlacks hrest_lacks, himports,
      List.nil_append, List.append_nil]
  · exact ⟨rest, by rw [hhead], hframe⟩

end Parts

end Artifact

namespace Service

open Layout

section Lines

variable (s : File)

theorem lacks_import_headLines : Lacks isImport (Web.headLines s) := by
  simp only [Web.headLines, Lacks, List.forall_mem_cons]
  exact ⟨not_isImport rfl _, not_isImport rfl _, rfl, List.forall_mem_nil _⟩

theorem lacks_binding_headLines : Lacks isBinding (Web.headLines s) := by
  simp only [Web.headLines, Lacks, List.forall_mem_cons]
  exact ⟨not_isBinding_of_lead rfl _, not_isBinding_of_lead rfl _, rfl, List.forall_mem_nil _⟩

theorem importLines_eq (mode : Mode) (a : Artifact) :
    a.importLines mode s.context =
      (s.imports.map fun g => line (a.bindingLine (SourcePath.namespaceName g)
        (SourcePath.importPath s.name g))) ++ [line (a.runtimeLine mode)] := by
  simp only [Artifact.importLines, File.context, List.map_map, Function.comp_def]

variable {f : Schema.File} {s} {parameters : Parameters} {frame : Frame}
  (hname : s.name = f.name) (hpackage : s.package = f.package)

include hname hpackage

theorem headLines_eq : Web.headLines s = Artifact.webDeclaration.head f := by
  rw [Web.headLines, hname, hpackage]
  rfl

theorem shows_web {promises : Bool} (hpromises : promises = decide (parameters.service = .grpcPromise))
    (hframe : Fills frame (Artifact.webDeclaration.typedLines parameters.service s.context.services)
      (Artifact.webDeclaration.body parameters.service s.services)) :
    Artifact.webDeclaration.Shows parameters f s.context frame (Web.lines promises s) := by
  have hlines : Web.lines promises s = Web.headLines s ++
      Artifact.webDeclaration.importLines parameters.mode s.context ++
        Artifact.webDeclaration.body parameters.service s.services := by
    rw [importLines_eq, Artifact.body, ← hpromises, ← List.append_assoc,
      ← List.append_assoc, ← List.append_assoc]
    rfl
  have hbody : Lacks isImport (Artifact.webDeclaration.body parameters.service s.services) := by
    refine lacks_append.mpr ⟨lacks_append.mpr ⟨?_, lacks_import_sharedTypes _⟩, ?_⟩
    · exact Lacks.flatMap fun t _ => lacks_import_webService t
    · exact Lacks.flatMap fun t _ => lacks_import_clientClass _ t
  rw [hlines]
  exact Artifact.shows_of_parts _ _ (headLines_eq hname hpackage) (lacks_import_headLines s) hbody hframe

theorem shows_script {promises : Bool} (hpromises : promises = decide (parameters.service = .grpcPromise))
    (hframe : Fills frame (Artifact.webScript.typedLines parameters.service s.context.services)
      (Artifact.webScript.body parameters.service s.services)) :
    Artifact.webScript.Shows parameters f s.context frame (WebScript.lines promises s) := by
  have hlines : WebScript.lines promises s = Web.headLines s ++
      Artifact.webScript.importLines parameters.mode s.context ++
        Artifact.webScript.body parameters.service s.services := by
    rw [importLines_eq, Artifact.body, ← hpromises, ← List.append_assoc]
    rfl
  have hbody : Lacks isBinding (Artifact.webScript.body parameters.service s.services) :=
    Lacks.flatMap fun t _ => lacks_binding_scriptService _ t
  rw [hlines]
  exact Artifact.shows_of_parts _ _ (headLines_eq hname hpackage) (lacks_binding_headLines s) hbody hframe

theorem shows_node
    (hframe : Fills frame (Artifact.nodeDeclaration.typedLines parameters.service s.context.services)
      (Artifact.nodeDeclaration.body parameters.service s.services)) :
    Artifact.nodeDeclaration.Shows parameters f s.context frame (Node.lines parameters.mode s) := by
  have hruntime : "import * as grpc from \"" ++ Node.runtimePackage parameters.mode ++ "\";" =
      Artifact.nodeDeclaration.runtimeLine parameters.mode := by
    cases parameters.mode <;> rfl
  have hlines : Node.lines parameters.mode s =
      [line "// GENERATED CODE -- DO NOT EDIT!", .blank] ++ Web.headLines s ++
        Artifact.nodeDeclaration.importLines parameters.mode s.context ++
          Artifact.nodeDeclaration.body parameters.service s.services := by
    rw [importLines_eq, ← hruntime, Artifact.body, ← List.append_assoc]
    rfl
  have hhead : [line "// GENERATED CODE -- DO NOT EDIT!", .blank] ++ Web.headLines s =
      Artifact.nodeDeclaration.head f := by
    rw [headLines_eq hname hpackage]
    rfl
  have hbody : Lacks isImport (Artifact.nodeDeclaration.body parameters.service s.services) :=
    Lacks.flatMap fun t _ => lacks_import_nodeService t
  rw [hlines]
  exact Artifact.shows_of_parts _ _ hhead (lacks_append.mpr ⟨by decide, lacks_import_headLines s⟩) hbody hframe

theorem shows_outputs {frames : Artifact → Frame}
    (hframes : ∀ a : Artifact, Fills (frames a) (a.typedLines parameters.service s.context.services)
      (a.body parameters.service s.services)) :
    List.Forall₂ (fun (a : Artifact) (o : OutputFile) => ∃ ls, o.name = a.fileName f.name ∧
      o.content = render ls ∧ a.Shows parameters f s.context (frames a) ls)
        parameters.service.artifacts (s.outputs parameters) := by
  have hweb {promises : Bool} (hpromises : promises = decide (parameters.service = .grpcPromise)) :
      List.Forall₂ (fun (a : Artifact) (o : OutputFile) => ∃ ls, o.name = a.fileName f.name ∧
        o.content = render ls ∧ a.Shows parameters f s.context (frames a) ls)
          [.webDeclaration, .webScript] (webFiles promises s) := by
    refine .cons ⟨Web.lines promises s, ?_, rfl, shows_web hname hpackage hpromises (hframes _)⟩
      (.cons ⟨WebScript.lines promises s, ?_, rfl, shows_script hname hpackage hpromises (hframes _)⟩ .nil)
    · rw [hname, String.append_assoc]
      rfl
    · rw [hname, String.append_assoc]
      rfl
  unfold File.outputs
  cases hservice : parameters.service with
  | none => exact .nil
  | grpcWeb => exact hweb (by rw [hservice]; rfl)
  | grpcPromise => exact hweb (by rw [hservice]; rfl)
  | grpcNode =>
    refine .cons ⟨Node.lines parameters.mode s, ?_, rfl, shows_node hname hpackage (hframes _)⟩ .nil
    rw [hname]
    rfl

end Lines

section Types

variable {index : TypeIndex} {f : Schema.File}

/-- A type of a method goes by the import of the file that declares it, and that file is among the imports. -/
def Refers (index : TypeIndex) (f : Schema.File) (name text : String) : Prop :=
  ∃ e, index.find? .message name = some e ∧
    text = SourcePath.namespaceName e.fileName ++ "." ++ e.localName ∧ e.fileName ∈ f.stubImports index

structure ServiceContext.Of (index : TypeIndex) (f : Schema.File) (s : Schema.Service) (c : ServiceContext) :
    Prop where
  name : c.name = s.name
  methods : List.Forall₂ (fun m (c : MethodContext) => c.name = m.name ∧
    c.clientName = Text.lowerFirst m.name ∧ c.shape = m.shape ∧
    Refers index f m.inputType c.requestType ∧ Refers index f m.outputType c.responseType) s.methods c.methods

theorem mem_stubImports {g : String} :
    g ∈ f.stubImports index ↔ g = f.name ∨ ∃ e ∈ f.methodTypes index, e.fileName = g := by
  simp only [Schema.File.stubImports, List.mem_cons, List.mem_filter, List.mem_eraseDups, List.mem_map,
    decide_eq_true_iff]
  tauto

theorem nodup_stubImports : (f.stubImports index).Nodup := by
  refine List.nodup_cons.mpr ⟨?_, (nodup_eraseDups _).filter _⟩
  simp

theorem refers_of_find? {s : Schema.Service} (hs : s ∈ f.services) {m : Schema.Method} (hm : m ∈ s.methods)
    {name : String} (hname : name ∈ [m.inputType, m.outputType]) {e : Export}
    (he : index.find? .message name = some e) : Refers index f name e.namespacedName := by
  refine ⟨e, he, rfl, mem_stubImports.mpr (.inr ⟨e, ?_, rfl⟩)⟩
  exact List.mem_flatMap.mpr ⟨s, hs, List.mem_flatMap.mpr ⟨m, hm, List.mem_filterMap.mpr ⟨name, hname, he⟩⟩⟩

theorem services_of_link {s : File} (h : File.link index f = .ok s) :
    List.Forall₂ (ServiceContext.Of index f) f.services s.context.services := by
  obtain ⟨stubs, hstubs, h⟩ := bind_eq_ok.mp h
  cases pure_eq_ok.mp h
  refine List.forall₂_map_right_iff.mpr (related_of_results (mapM_eq_ok.mp hstubs) fun t ht stub hstub => ?_)
  obtain ⟨methods, hmethods, hstub⟩ := bind_eq_ok.mp hstub
  cases pure_eq_ok.mp hstub
  refine ⟨rfl, List.forall₂_map_right_iff.mpr
    (related_of_results (mapM_eq_ok.mp hmethods) fun m hm m' hlink => ?_)⟩
  obtain ⟨request, hrequest, hlink⟩ := bind_eq_ok.mp hlink
  obtain ⟨response, hresponse, hlink⟩ := bind_eq_ok.mp hlink
  cases pure_eq_ok.mp hlink
  exact ⟨rfl, rfl, rfl, refers_of_find? ht hm (by simp) (TypeIndex.resolve_eq_ok.mp hrequest),
    refers_of_find? ht hm (by simp) (TypeIndex.resolve_eq_ok.mp hresponse)⟩

theorem failure?_resolve (viewer name : String) :
    failure? (index.resolve .message name viewer) =
      match index.find? .message name with
      | none => some (.unresolvedType .message name viewer)
      | some _ => none := by
  unfold TypeIndex.resolve
  cases index.find? .message name <;> rfl

theorem failure?_resolve_eq_none {viewer name : String} :
    failure? (index.resolve .message name viewer) = none ↔ index.find? .message name ≠ none := by
  rw [failure?_resolve]
  cases index.find? .message name <;> simp

end Types

/-- A service that takes a message of its own file and returns twice one of another file. -/
def askingFile : Schema.File where
  name := "a.proto"
  package := "p"
  services := [{
    name := "Asking"
    fullName := "p.Asking"
    methods := [
      { name := "Ask", inputType := "p.A", outputType := "q.B" },
      { name := "Repeat", inputType := "q.B", outputType := "p.A" }] }]

-- An enumeration of the name does not help, and the first type that is missing is told.
example : files ⟨[{ kind := .enum, fullName := "p.A", package := "p", fileName := "a.proto" }]⟩
    { service := .grpcWeb } askingFile = .error (.unresolvedType .message "p.A" "a.proto") := rfl

end Service

end ProtoStubs
