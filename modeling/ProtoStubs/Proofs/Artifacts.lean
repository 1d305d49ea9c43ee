import ProtoStubs.Proofs.Imports
import ProtoStubs.Proofs.WellFormed

/-!
# What a run emits

A requested file has its declaration and, if it has services, the files of the selected variant. Each of
them has a name that depends on the path of the file alone, and after its first lines it imports other
modules, one a line. A run emits these files of each requested file and nothing else.
-/

namespace ProtoStubs

namespace Schema

def File.methodTypes (index : TypeIndex) (f : File) : List Export :=
  f.services.flatMap fun s => s.methods.flatMap fun m =>
    [m.inputType, m.outputType].filterMap (index.find? .message)

/-- The files that the stubs of a file import: its own, and then each other file of its methods, once and
in the order of the first reference. -/
def File.stubImports (index : TypeIndex) (f : File) : List String :=
  f.name :: ((f.methodTypes index).map (·.fileName)).eraseDups.filter (· ≠ f.name)

end Schema

inductive Artifact
  | declaration
  | webDeclaration
  | webScript
  | nodeDeclaration
  deriving DecidableEq

namespace Artifact

def fileName (schema : String) : Artifact → String
  | .declaration => SourcePath.modulePath schema ++ ".d.ts"
  | .webDeclaration => SourcePath.modulePath schema ++ "_service.d.ts"
  | .webScript => SourcePath.modulePath schema ++ "_service.js"
  | .nodeDeclaration => SourcePath.stem schema ++ "_grpc_pb.d.ts"

def imports (index : TypeIndex) (f : Schema.File) : Artifact → List String
  | .declaration => f.dependencies ++ f.otherFiles index
  | .webDeclaration | .webScript | .nodeDeclaration => f.stubImports index

def qualified (index : TypeIndex) (f : Schema.File) : Artifact → List Export
  | .declaration => (f.references index).filter (·.fileName ≠ f.name)
  | .webDeclaration | .webScript | .nodeDeclaration => f.methodTypes index

def bindingLine (name path : String) : Artifact → String
  | .declaration | .webDeclaration | .nodeDeclaration =>
    "import * as " ++ name ++ " from \"" ++ path ++ "\";"
  | .webScript => "var " ++ name ++ " = require(\"" ++ path ++ "\");"

def importLine (viewer target : String) (a : Artifact) : String :=
  a.bindingLine (SourcePath.namespaceName target) (SourcePath.importPath viewer target)

def head (f : Schema.File) : Artifact → List Line
  | .declaration => Declaration.preamble f
  | .webDeclaration | .webScript => [
    Layout.line ("// package: " ++ f.package), Layout.line ("// file: " ++ f.name), .blank]
  | .nodeDeclaration => [
    Layout.line "// GENERATED CODE -- DO NOT EDIT!", .blank,
    Layout.line ("// package: " ++ f.package), Layout.line ("// file: " ++ f.name), .blank]

/-- The output has the name of the artifact, and its lines start with the head and the imports. -/
structure Makes (index : TypeIndex) (f : Schema.File) (a : Artifact) (o : OutputFile) : Prop where
  name : o.name = a.fileName f.name
  content : ∃ rest, o.content = Layout.render (a.head f ++
    (a.imports index f).map (fun target => Layout.line (a.importLine f.name target)) ++ rest)

end Artifact

def ServiceVariant.artifacts : ServiceVariant → List Artifact
  | .none => []
  | .grpcWeb | .grpcPromise => [.webDeclaration, .webScript]
  | .grpcNode => [.nodeDeclaration]

def Schema.File.artifacts (service : ServiceVariant) (f : Schema.File) : List Artifact :=
  .declaration :: if f.services = [] then [] else service.artifacts

namespace Service

theorem Method.types_of_link {index : TypeIndex} {viewer : String} {m : Schema.Method} {m' : Method}
    (h : Method.link index viewer m = .ok m') :
    [m.inputType, m.outputType].filterMap (index.find? .message) = [m'.request, m'.response] := by
  obtain ⟨request, hrequest, h⟩ := bind_eq_ok.mp h
  obtain ⟨response, hresponse, h⟩ := bind_eq_ok.mp h
  cases pure_eq_ok.mp h
  simp [TypeIndex.resolve_eq_ok.mp hrequest, TypeIndex.resolve_eq_ok.mp hresponse]

theorem Method.source_of_link {index : TypeIndex} {viewer : String} {m : Schema.Method} {m' : Method}
    (h : Method.link index viewer m = .ok m') : m'.source = m := by
  obtain ⟨request, -, h⟩ := bind_eq_ok.mp h
  obtain ⟨response, -, h⟩ := bind_eq_ok.mp h
  cases pure_eq_ok.mp h
  rfl

theorem Stub.source_of_link {index : TypeIndex} {viewer : String} {s : Schema.Service} {s' : Stub}
    (h : Stub.link index viewer s = .ok s') :
    s'.name = s.name ∧ s'.fullName = s.fullName ∧ s'.methods.map (·.source) = s.methods := by
  obtain ⟨methods, hmethods, h⟩ := bind_eq_ok.mp h
  cases pure_eq_ok.mp h
  refine ⟨rfl, rfl, ?_⟩
  rw [← List.map_id s.methods]
  exact map_related (mapM_eq_ok.mp hmethods) fun m _ m' hm => Method.source_of_link hm

theorem File.origins_of_link {index : TypeIndex} {f : Schema.File} {s : File}
    (h : File.link index f = .ok s) : s.origins = (f.methodTypes index).map (·.fileName) := by
  obtain ⟨services, hservices, h⟩ := bind_eq_ok.mp h
  cases pure_eq_ok.mp h
  simp only [File.origins, Schema.File.methodTypes, List.map_flatMap]
  apply flatMap_related (mapM_eq_ok.mp hservices)
  intro service _ stub hstub
  obtain ⟨methods, hmethods, hstub⟩ := bind_eq_ok.mp hstub
  cases pure_eq_ok.mp hstub
  apply flatMap_related (mapM_eq_ok.mp hmethods)
  intro m _ m' hm
  rw [Method.types_of_link hm]
  rfl

theorem File.imports_of_link {index : TypeIndex} {f : Schema.File} {s : File}
    (h : File.link index f = .ok s) :
    s.name = f.name ∧ s.package = f.package ∧ s.imports = f.stubImports index := by
  have horigins := File.origins_of_link h
  obtain ⟨services, -, h⟩ := bind_eq_ok.mp h
  cases pure_eq_ok.mp h
  refine ⟨rfl, rfl, ?_⟩
  rw [File.imports, horigins, foreignFiles_eq, Schema.File.stubImports]

open Artifact (Makes)

section Stubs

variable {index : TypeIndex} {f : Schema.File} {s : File}

theorem makes_webFiles (h : File.link index f = .ok s) (promises : Bool) :
    List.Forall₂ (Makes index f) [.webDeclaration, .webScript] (webFiles promises s) := by
  obtain ⟨hname, hpackage, himports⟩ := File.imports_of_link h
  refine .cons ⟨?_, ?declarationRest, ?declaration⟩ (.cons ⟨?_, ?scriptRest, ?script⟩ .nil)
  case declaration =>
    simp only [Web.lines, Web.headLines, himports, hname, hpackage, List.append_assoc]
    rfl
  case script =>
    simp only [WebScript.lines, Web.headLines, himports, hname, hpackage, List.append_assoc]
    rfl
  · rw [hname, String.append_assoc]
    rfl
  · rw [hname, String.append_assoc]
    rfl

theorem makes_nodeFiles (h : File.link index f = .ok s) (mode : Mode) :
    List.Forall₂ (Makes index f) [.nodeDeclaration] (nodeFiles mode s) := by
  obtain ⟨hname, hpackage, himports⟩ := File.imports_of_link h
  refine .cons ⟨?_, ?rest, ?content⟩ .nil
  case content =>
    simp only [Node.lines, Web.headLines, himports, hname, hpackage, List.append_assoc]
    rfl
  · rw [hname]
    rfl

theorem File.makes_outputs (h : File.link index f = .ok s) (parameters : Parameters) :
    List.Forall₂ (Makes index f) parameters.service.artifacts (s.outputs parameters) := by
  unfold File.outputs
  cases parameters.service with
  | none => exact .nil
  | grpcWeb => exact makes_webFiles h false
  | grpcPromise => exact makes_webFiles h true
  | grpcNode => exact makes_nodeFiles h parameters.mode

end Stubs

theorem files_eq_link {index : TypeIndex} {parameters : Parameters} {f : Schema.File}
    (hvariant : parameters.service ≠ .none) (hservices : f.services ≠ []) :
    files index parameters f = do return (← File.link index f).outputs parameters :=
  if_neg (not_or.mpr ⟨hvariant, hservices⟩)

theorem exists_link_of_files {index : TypeIndex} {parameters : Parameters} {f : Schema.File}
    {outs : List OutputFile} (hvariant : parameters.service ≠ .none) (hservices : f.services ≠ [])
    (h : files index parameters f = .ok outs) :
    ∃ s, File.link index f = .ok s ∧ s.outputs parameters = outs := by
  rw [files_eq_link hvariant hservices] at h
  obtain ⟨s, hs, h⟩ := bind_eq_ok.mp h
  exact ⟨s, hs, pure_eq_ok.mp h⟩

theorem makes_files {index : TypeIndex} {parameters : Parameters} {f : Schema.File}
    {outs : List OutputFile} (h : files index parameters f = .ok outs) :
    List.Forall₂ (Makes index f) (if f.services = [] then [] else parameters.service.artifacts)
      outs := by
  unfold files at h
  split at h
  · rename_i hnone
    cases h
    rcases hnone with hservice | hempty
    · rw [hservice, ServiceVariant.artifacts, ite_self]
      exact .nil
    · rw [if_pos hempty]
      exact .nil
  · rename_i hsome
    rw [not_or] at hsome
    obtain ⟨s, hs, h⟩ := bind_eq_ok.mp h
    cases pure_eq_ok.mp h
    rw [if_neg hsome.2]
    exact File.makes_outputs hs parameters

end Service

namespace Generate

open Artifact (Makes)

theorem makes_outputs {index : TypeIndex} {parameters : Parameters} {f : Schema.File}
    {outs : List OutputFile} (h : outputs index parameters f = .ok outs) :
    List.Forall₂ (Makes index f) (f.artifacts parameters.service) outs := by
  obtain ⟨t, ht, h⟩ := bind_eq_ok.mp h
  obtain ⟨stubs, hstubs, h⟩ := bind_eq_ok.mp h
  cases pure_eq_ok.mp h
  refine .cons ⟨rfl, ?_⟩ (Service.makes_files hstubs)
  obtain ⟨d, hd, ht⟩ := bind_eq_ok.mp ht
  cases pure_eq_ok.mp ht
  obtain ⟨hname, hpackage, -⟩ := Declaration.File.link_name hd
  refine ⟨d.bodyLines, ?_⟩
  rw [Declaration.File.lines, Declaration.File.headLines, Declaration.File.imports_of_link hd, hname,
    hpackage]
  rfl

end Generate

theorem Schema.File.dependencies_of_load {d : Descriptor.File} {f : Schema.File}
    (h : Schema.File.load d = .ok f) : f.dependencies = d.dependencies := by
  obtain ⟨dialect, -, h⟩ := bind_eq_ok.mp h
  obtain ⟨messages, -, h⟩ := bind_eq_ok.mp h
  obtain ⟨extensions, -, h⟩ := bind_eq_ok.mp h
  cases pure_eq_ok.mp h
  rfl

namespace Generate

/-- A run on the request makes the output of the loaded file `f`, as its artifact `a`. -/
def Emits (r : Descriptor.Request) (override : Option String) (index : TypeIndex) (f : Schema.File)
    (a : Artifact) (o : OutputFile) : Prop :=
  ∃ parameters files outs,
    Parameters.parse (effectiveParameter r override) = .ok parameters ∧ Loaded r files index ∧
    f.name ∈ r.filesToGenerate ∧ fileNamed? files f.name = some f ∧
    outputs index parameters f = .ok outs ∧ (a, o) ∈ (f.artifacts parameters.service).zip outs

variable {r : Descriptor.Request} {override : Option String} {response : Response}

theorem name_of_fileNamed? {files : List Schema.File} {name : String} {f : Schema.File}
    (h : fileNamed? files name = some f) : f.name = name := by
  simpa using (List.mem_filter.mp (List.mem_of_getLast? h)).2

theorem Loaded.fileNamed? {files : List Schema.File} {index : TypeIndex} (h : Loaded r files index)
    {name : String} {f : Schema.File} (hf : Generate.fileNamed? files name = some f) :
    ∃ d, r.fileNamed? name = some d ∧ Schema.File.load d = .ok f := by
  have hrel := h.fileNamed?_results name
  rw [hf] at hrel
  generalize r.fileNamed? name = o at hrel
  cases hrel with
  | some hload => exact ⟨_, rfl, hload⟩

section Emits

variable {index : TypeIndex} {f : Schema.File} {a : Artifact} {o : OutputFile}

theorem Emits.makes (h : Emits r override index f a o) : a.Makes index f o := by
  obtain ⟨parameters, files, outs, -, -, -, -, houts, hmem⟩ := h
  exact (List.forall₂_zip (makes_outputs houts)) hmem

theorem Emits.exists_descriptor (h : Emits r override index f a o) :
    ∃ d, r.fileNamed? f.name = some d ∧ Schema.File.load d = .ok f := by
  obtain ⟨parameters, files, outs, -, hl, -, hfile, -, -⟩ := h
  exact hl.fileNamed? hfile

end Emits

/-- The files of an answer are those that the run emits. -/
theorem mem_files_iff (h : generate r override = .ok response) {o : OutputFile} :
    o ∈ response.files ↔ ∃ index f a, Emits r override index f a o := by
  obtain ⟨parameters, files, index, groups, hparameters, hl, hgroups, rfl⟩ := generate_eq_ok.mp h
  simp only [List.mem_flatten, mem_results hgroups]
  constructor
  · intro ho
    obtain ⟨group, ⟨name, hname, hgroup⟩, ho⟩ := ho
    obtain ⟨f, hf, houts⟩ := bind_eq_ok.mp hgroup
    have hf := require_eq_ok.mp hf
    obtain rfl := name_of_fileNamed? hf
    -- Artifacts and outputs are equally many, so that each output stands beside its artifact.
    have hzip : ((f.artifacts parameters.service).zip group).map Prod.snd = group :=
      List.map_snd_zip (Nat.le_of_eq (makes_outputs houts).length_eq.symm)
    rw [← hzip] at ho
    obtain ⟨⟨a, o⟩, hao, rfl⟩ := List.mem_map.mp ho
    exact ⟨index, f, a, parameters, files, group, hparameters, hl, hname, hf, houts, hao⟩
  · intro ho
    obtain ⟨index', f, a, parameters', files', outs, hparameters', hl', hname, hf, houts, hao⟩ := ho
    obtain rfl := Except.ok.inj (hparameters.symm.trans hparameters')
    obtain rfl := Except.ok.inj ((mapM_eq_ok.mpr hl.load).symm.trans (mapM_eq_ok.mpr hl'.load))
    obtain rfl := Except.ok.inj (hl.build.symm.trans hl'.build)
    refine ⟨outs, ⟨f.name, hname, ?_⟩, (List.of_mem_zip hao).2⟩
    exact bind_eq_ok.mpr ⟨f, require_eq_ok.mpr hf, houts⟩

theorem exists_emits_declaration (h : generate r override = .ok response) {name : String}
    (hname : name ∈ r.filesToGenerate) :
    ∃ index f o, f.name = name ∧ Emits r override index f .declaration o := by
  obtain ⟨parameters, files, index, groups, hparameters, hl, hgroups, -⟩ := generate_eq_ok.mp h
  obtain ⟨group, -, hgroup⟩ := exists_related hgroups hname
  obtain ⟨f, hf, houts⟩ := bind_eq_ok.mp hgroup
  have hf := require_eq_ok.mp hf
  obtain rfl := name_of_fileNamed? hf
  have hmakes := makes_outputs houts
  cases group with
  | nil => cases hmakes
  | cons o outs =>
    exact ⟨index, f, o, rfl, parameters, files, o :: outs, hparameters, hl, hname, hf, houts,
      List.mem_cons_self⟩

theorem exists_emits_of_fileNamed? (h : generate r override = .ok response) {name : String}
    (hname : name ∈ r.filesToGenerate) {d : Descriptor.File} (hd : r.fileNamed? name = some d) :
    ∃ index f o, Schema.File.load d = .ok f ∧ Emits r override index f .declaration o := by
  obtain ⟨index, f, o, rfl, he⟩ := exists_emits_declaration h hname
  obtain ⟨d', hd', hload⟩ := he.exists_descriptor
  cases hd.symm.trans hd'
  exact ⟨index, f, o, hload, he⟩

/-- The files of an answer are the artifacts of the requested files, in their order. -/
theorem emits_files (h : generate r override = .ok response) {parameters : Parameters}
    (hparameters : Parameters.parse (effectiveParameter r override) = .ok parameters) :
    ∃ index, ∃ fs : List Schema.File, fs.map (·.name) = r.filesToGenerate ∧
      List.Forall₂ (fun x o => Emits r override index x.1 x.2 o)
        (fs.flatMap fun f => (f.artifacts parameters.service).map fun a => (f, a)) response.files := by
  obtain ⟨parameters', files, index, groups, hparameters', hl, hgroups, rfl⟩ := generate_eq_ok.mp h
  obtain rfl := Except.ok.inj (hparameters.symm.trans hparameters')
  have hgroup {name : String} (hname : name ∈ r.filesToGenerate) {group : List OutputFile}
      (hgroup : outputsFor files index parameters name = .ok group) :
      ∃ f : Schema.File, f.name = name ∧ List.Forall₂ (fun a o => Emits r override index f a o)
        (f.artifacts parameters.service) group := by
    obtain ⟨f, hf, houts⟩ := bind_eq_ok.mp hgroup
    have hf := require_eq_ok.mp hf
    obtain rfl := name_of_fileNamed? hf
    refine ⟨f, rfl, List.forall₂_iff_zip.mpr ⟨(makes_outputs houts).length_eq, fun hao => ?_⟩⟩
    exact ⟨parameters, files, group, hparameters, hl, hname, hf, houts, hao⟩
  refine ⟨index, ?_⟩
  clear h hparameters'
  -- The requested names are cut down with the groups, while the run keeps the whole request.
  generalize r.filesToGenerate = requested at hgroups hgroup
  induction hgroups with
  | nil => exact ⟨[], rfl, .nil⟩
  | @cons name group names groups hfirst _ ih =>
    obtain ⟨f, rfl, hemits⟩ := hgroup List.mem_cons_self hfirst
    obtain ⟨fs, hfs, hrest⟩ := ih fun hname => hgroup (List.mem_cons_of_mem _ hname)
    refine ⟨f :: fs, by rw [List.map_cons, hfs], ?_⟩
    have hlabelled : List.Forall₂ (fun x o => Emits r override index x.1 x.2 o)
        ((f.artifacts parameters.service).map fun a => (f, a)) group :=
      List.forall₂_map_left_iff.mpr hemits
    exact List.rel_append hlabelled hrest

theorem exists_descriptor_of_emits {fs : List Schema.File} {index : TypeIndex}
    {service : ServiceVariant} {files : List OutputFile}
    (h : List.Forall₂ (fun x o => Emits r override index x.1 x.2 o)
      (fs.flatMap fun f => (f.artifacts service).map fun a => (f, a)) files) :
    ∀ f ∈ fs, ∃ d, r.fileNamed? f.name = some d ∧ Schema.File.load d = .ok f := by
  intro f hf
  have hlabel : (f, Artifact.declaration) ∈
      fs.flatMap fun f => (f.artifacts service).map fun a => (f, a) :=
    List.mem_flatMap.mpr ⟨f, hf, List.mem_cons_self⟩
  obtain ⟨o, -, ho⟩ := exists_related h hlabel
  exact ho.exists_descriptor

end Generate

/-- A service that returns a message of another file. -/
def callerFile : Descriptor.File where
  name := some "a/caller.proto"
  package := some "a"
  dependencies := ["b/answer.proto"]
  messages := [{
    name := some "Question"
    fields := [
      { name := some "last", number := some 1, type := some 11, typeName := some ".b.Answer" }] }]
  services := [{
    name := some "Caller"
    methods := [
      { name := some "Ask", inputType := some ".a.Question", outputType := some ".b.Answer" }] }]

def answerFile : Descriptor.File where
  name := some "b/answer.proto"
  package := some "b"
  messages := [{ name := some "Answer" }]
  enums := [{ name := some "Kind" }]

def callerRequest : Descriptor.Request where
  filesToGenerate := ["a/caller.proto", "b/answer.proto"]
  parameter := some "service=grpc-web"
  files := [callerFile, answerFile]

end ProtoStubs
