import Mathlib.Data.List.Nodup
import Mathlib.Data.List.Perm.Basic
import ProtoStubs.Proofs.Artifacts
import ProtoStubs.Proofs.RelativePaths

/-!
# The names of outputs

The name of an artifact is the stem of its file with a suffix. Two suffixes tell the stems and the artifacts
apart unless one of them ends in the other, and only the suffix of the Node stubs ends in another one. So a
run writes no file twice, except where the declaration of one file is named like the Node stubs of another.
-/

namespace ProtoStubs

open SourcePath

namespace Artifact

def suffix : Artifact → String
  | .declaration => "_pb.d.ts"
  | .webDeclaration => "_pb_service.d.ts"
  | .webScript => "_pb_service.js"
  | .nodeDeclaration => "_grpc_pb.d.ts"

theorem fileName_eq {path : String} (h : Text.endsWith schemaSuffix path = true) (a : Artifact) :
    a.fileName path = stem path ++ a.suffix := by
  have hmodule : modulePath path = stem path ++ moduleSuffix := if_pos h
  cases a with
  | declaration => exact (congrArg (· ++ ".d.ts") hmodule).trans String.append_assoc
  | webDeclaration => exact (congrArg (· ++ "_service.d.ts") hmodule).trans String.append_assoc
  | webScript => exact (congrArg (· ++ "_service.js") hmodule).trans String.append_assoc
  | nodeDeclaration => rfl

theorem suffix_isSuffix_iff (a b : Artifact) :
    a.suffix.toList <:+ b.suffix.toList ↔ a = b ∨ a = .declaration ∧ b = .nodeDeclaration := by
  cases a <;> cases b <;> decide

/-- The file whose declaration is named like the Node stubs of the file at a path. -/
def rival (path : String) : String := stem path ++ "_grpc.proto"

section Stems

variable {s t p q : String} {a b : Artifact}

theorem stem_append_suffix_eq_iff :
    s ++ a.suffix = t ++ b.suffix ↔
      (a = b ∧ s = t) ∨ (a = .declaration ∧ b = .nodeDeclaration ∧ s = t ++ "_grpc") ∨
        (a = .nodeDeclaration ∧ b = .declaration ∧ t = s ++ "_grpc") := by
  have hnode (u : String) : u ++ nodeDeclaration.suffix = u ++ "_grpc" ++ declaration.suffix := by
    rw [String.append_assoc]
    rfl
  constructor
  · intro h
    have hleft : a.suffix.toList <:+ (s ++ a.suffix).toList := by simp
    have hright : b.suffix.toList <:+ (s ++ a.suffix).toList := by simp [h]
    -- Both end the same text, so one of them ends the other.
    rcases List.suffix_or_suffix_of_suffix hleft hright with hsuffix | hsuffix
    · rcases (suffix_isSuffix_iff a b).mp hsuffix with rfl | ⟨rfl, rfl⟩
      · exact .inl ⟨rfl, (String.append_left_inj _).mp h⟩
      · rw [hnode, String.append_left_inj] at h
        exact .inr (.inl ⟨rfl, rfl, h⟩)
    · rcases (suffix_isSuffix_iff b a).mp hsuffix with rfl | ⟨rfl, rfl⟩
      · exact .inl ⟨rfl, (String.append_left_inj _).mp h⟩
      · rw [hnode, String.append_left_inj] at h
        exact .inr (.inr ⟨rfl, rfl, h.symm⟩)
  · intro h
    rcases h with ⟨rfl, rfl⟩ | ⟨rfl, rfl, rfl⟩ | ⟨rfl, rfl, rfl⟩
    · rfl
    · exact (hnode t).symm
    · exact hnode s

theorem stem_inj (hp : Text.endsWith schemaSuffix p = true) (hq : Text.endsWith schemaSuffix q = true) :
    stem p = stem q ↔ p = q := by
  rw [← String.append_left_inj schemaSuffix, stem_append hp, stem_append hq]

theorem eq_rival_iff (hp : Text.endsWith schemaSuffix p = true) :
    p = rival q ↔ stem p = stem q ++ "_grpc" := by
  have hrival : rival q = stem q ++ "_grpc" ++ schemaSuffix := by
    rw [rival, String.append_assoc]
    rfl
  constructor
  · intro h
    rw [← String.append_left_inj schemaSuffix, stem_append hp, h, hrival]
  · intro h
    rw [hrival, ← h, stem_append hp]

theorem fileName_eq_iff (hp : Text.endsWith schemaSuffix p = true)
    (hq : Text.endsWith schemaSuffix q = true) :
    a.fileName p = b.fileName q ↔
      (a = b ∧ p = q) ∨ (a = .declaration ∧ b = .nodeDeclaration ∧ p = rival q) ∨
        (a = .nodeDeclaration ∧ b = .declaration ∧ q = rival p) := by
  rw [fileName_eq hp, fileName_eq hq, stem_append_suffix_eq_iff, stem_inj hp hq, eq_rival_iff hp,
    eq_rival_iff hq]

end Stems

end Artifact

open Artifact (rival)

namespace Schema

def labelledArtifacts (service : ServiceVariant) (fs : List File) : List (File × Artifact) :=
  fs.flatMap fun f => (f.artifacts service).map fun a => (f, a)

section Artifacts

variable {service : ServiceVariant} {fs : List File} {f : File}

theorem File.nodup_artifacts (f : File) : (f.artifacts service).Nodup := by
  unfold File.artifacts
  split
  · exact List.nodup_singleton _
  · cases service <;> decide

theorem File.nodeDeclaration_mem_artifacts :
    .nodeDeclaration ∈ f.artifacts service ↔ service = .grpcNode ∧ f.services ≠ [] := by
  unfold File.artifacts
  split
  · rename_i hempty
    simp [hempty]
  · rename_i hservices
    rw [and_iff_left hservices]
    cases service <;> decide

theorem nodup_labelledArtifacts (h : (fs.map (·.name)).Nodup) :
    (labelledArtifacts service fs).Nodup := by
  refine List.nodup_flatMap.mpr ⟨?_, ?_⟩
  · intro f _
    exact f.nodup_artifacts.map fun a b hab => (Prod.mk.inj hab).2
  · apply (List.pairwise_map.mp h).imp
    intro f g hfg x hxf hxg
    obtain ⟨a, -, rfl⟩ := List.mem_map.mp hxf
    obtain ⟨b, -, hb⟩ := List.mem_map.mp hxg
    exact hfg (congrArg (·.1.name) hb).symm

theorem mem_labelledArtifacts {a : Artifact} :
    (f, a) ∈ labelledArtifacts service fs ↔ f ∈ fs ∧ a ∈ f.artifacts service := by
  simp only [labelledArtifacts, List.mem_flatMap, List.mem_map, Prod.mk.injEq]
  constructor
  · rintro ⟨f, hf, a, ha, rfl, rfl⟩
    exact ⟨hf, ha⟩
  · rintro ⟨hf, ha⟩
    exact ⟨f, hf, a, ha, rfl, rfl⟩

theorem declaration_mem_labelledArtifacts :
    (f, .declaration) ∈ labelledArtifacts service fs ↔ f ∈ fs :=
  mem_labelledArtifacts.trans (and_iff_left List.mem_cons_self)

theorem nodeDeclaration_mem_labelledArtifacts :
    (f, .nodeDeclaration) ∈ labelledArtifacts service fs ↔
      f ∈ fs ∧ service = .grpcNode ∧ f.services ≠ [] := by
  rw [mem_labelledArtifacts, File.nodeDeclaration_mem_artifacts]

section Names

variable (hnames : (fs.map (·.name)).Nodup)
  (hschemas : ∀ name ∈ fs.map (·.name), Text.endsWith schemaSuffix name = true)

include hschemas in
theorem endsWith_of_mem_labelledArtifacts {x : File × Artifact}
    (hx : x ∈ labelledArtifacts service fs) : Text.endsWith schemaSuffix x.1.name = true :=
  hschemas _ (List.mem_map_of_mem (mem_labelledArtifacts.mp hx).1)

include hnames hschemas

theorem fileName_eq_iff_of_mem {x y : File × Artifact} (hx : x ∈ labelledArtifacts service fs)
    (hy : y ∈ labelledArtifacts service fs) :
    x.2.fileName x.1.name = y.2.fileName y.1.name ↔
      x = y ∨ (x.2 = .declaration ∧ y.2 = .nodeDeclaration ∧ x.1.name = rival y.1.name) ∨
        (x.2 = .nodeDeclaration ∧ y.2 = .declaration ∧ y.1.name = rival x.1.name) := by
  rw [Artifact.fileName_eq_iff (endsWith_of_mem_labelledArtifacts hschemas hx)
    (endsWith_of_mem_labelledArtifacts hschemas hy)]
  refine or_congr_left ⟨fun ⟨ha, hname⟩ => ?_, fun hxy => ⟨congrArg _ hxy, congrArg (·.1.name) hxy⟩⟩
  have hfile := List.inj_on_of_nodup_map hnames (mem_labelledArtifacts.mp hx).1
    (mem_labelledArtifacts.mp hy).1 hname
  exact Prod.ext hfile ha

theorem nodup_fileNames_iff :
    ((labelledArtifacts service fs).map fun x => x.2.fileName x.1.name).Nodup ↔
      ∀ f, (f, .nodeDeclaration) ∈ labelledArtifacts service fs →
        rival f.name ∉ fs.map (·.name) := by
  rw [List.nodup_map_iff_inj_on (nodup_labelledArtifacts hnames)]
  constructor
  · intro hinj f hnode hrival
    obtain ⟨g, hg, hname⟩ := List.mem_map.mp hrival
    have hdeclaration : (g, .declaration) ∈ labelledArtifacts service fs :=
      declaration_mem_labelledArtifacts.mpr hg
    have heq := hinj _ hnode _ hdeclaration ((fileName_eq_iff_of_mem hnames hschemas hnode
      hdeclaration).mpr (.inr (.inr ⟨rfl, rfl, hname⟩)))
    cases (Prod.mk.inj heq).2
  · rintro hrivals ⟨f, a⟩ hx ⟨g, b⟩ hy hxy
    rcases (fileName_eq_iff_of_mem hnames hschemas hx hy).mp hxy with
      heq | ⟨rfl, rfl, hname⟩ | ⟨rfl, rfl, hname⟩
    · exact heq
    · exact absurd (List.mem_map.mpr ⟨f, (mem_labelledArtifacts.mp hx).1, hname⟩) (hrivals g hy)
    · exact absurd (List.mem_map.mpr ⟨g, (mem_labelledArtifacts.mp hy).1, hname⟩) (hrivals f hx)

/-- Where the declaration of the rival is made as well, it and the Node stubs are all that have their
name. -/
theorem perm_filter_fileName {f g : File} (hnode : (f, .nodeDeclaration) ∈ labelledArtifacts service fs)
    (hg : g ∈ fs) (hname : g.name = rival f.name) :
    [(f, Artifact.nodeDeclaration), (g, .declaration)].Perm ((labelledArtifacts service fs).filter
      fun x => x.2.fileName x.1.name = Artifact.nodeDeclaration.fileName f.name) := by
  rw [List.perm_ext_iff_of_nodup (by simp) ((nodup_labelledArtifacts hnames).filter _)]
  have hdeclaration : (g, .declaration) ∈ labelledArtifacts service fs :=
    declaration_mem_labelledArtifacts.mpr hg
  intro x
  simp only [List.mem_cons, List.not_mem_nil, or_false, List.mem_filter, decide_eq_true_eq]
  constructor
  · rintro (rfl | rfl)
    · exact ⟨hnode, rfl⟩
    · exact ⟨hdeclaration, (fileName_eq_iff_of_mem hnames hschemas hdeclaration hnode).mpr
        (.inr (.inl ⟨rfl, rfl, hname⟩))⟩
  · rintro ⟨hx, hxname⟩
    rcases (fileName_eq_iff_of_mem hnames hschemas hx hnode).mp hxname with
      rfl | ⟨ha, -, hxrival⟩ | ⟨-, ha, -⟩
    · exact .inl rfl
    · have hfile := List.inj_on_of_nodup_map hnames (mem_labelledArtifacts.mp hx).1 hg
        (hxrival.trans hname.symm)
      exact .inr (Prod.ext hfile ha)
    · cases ha

end Names

end Artifacts

theorem File.services_eq_nil_of_load {d : Descriptor.File} {f : File} (h : File.load d = .ok f) :
    f.services = [] ↔ d.services = [] := by
  rw [(File.loadedFrom h).services, List.map_eq_nil_iff]

end Schema

open Generate

/-- Of the outputs of a run, those with the name of the Node stubs of a file are these stubs and the
declaration of the rival, if the rival is there. -/
theorem exists_outputs_of_rival {r : Descriptor.Request} {override : Option String} {index : TypeIndex}
    {service : ServiceVariant} {fs : List Schema.File} {outputs : List OutputFile}
    (hnames : (fs.map (·.name)).Nodup)
    (hschemas : ∀ name ∈ fs.map (·.name), Text.endsWith schemaSuffix name = true)
    (hemits : List.Forall₂ (fun x o => Emits r override index x.1 x.2 o)
      (Schema.labelledArtifacts service fs) outputs)
    {f g : Schema.File} (hnode : (f, .nodeDeclaration) ∈ Schema.labelledArtifacts service fs) (hg : g ∈ fs)
    (hname : g.name = rival f.name) :
    ∃ stubs declaration, Emits r override index f .nodeDeclaration stubs ∧
      Emits r override index g .declaration declaration ∧
      (outputs.filter fun o => o.name = stem f.name ++ "_grpc_pb.d.ts").Perm [stubs, declaration] := by
  have hnamed : List.Forall₂ (fun x o => Emits r override index x.1 x.2 o)
      ((Schema.labelledArtifacts service fs).filter fun x =>
        x.2.fileName x.1.name = Artifact.nodeDeclaration.fileName f.name)
      (outputs.filter fun o => o.name = stem f.name ++ "_grpc_pb.d.ts") := by
    refine List.rel_filter ?_ hemits
    intro x o ho
    simp only [decide_eq_true_eq, ho.makes.name]
    rfl
  obtain ⟨pair, hpair, hperm⟩ := List.perm_comp_forall₂
    (Schema.perm_filter_fileName hnames hschemas hnode hg hname) hnamed
  cases hpair with
  | cons hstubs hrest =>
    cases hrest with
    | cons hdeclaration hnil =>
      cases hnil
      exact ⟨_, _, hstubs, hdeclaration, hperm.symm⟩

/-- The outputs of a run have names of their own, unless it makes Node stubs of a file with services and is
asked for the rival of that file too; then those stubs and the declaration of the rival are the two outputs
of one name. -/
theorem nodup_output_names_iff {r : Descriptor.Request} {override : Option String} {response : Response}
    (h : generate r override = .ok response) (hrequested : r.filesToGenerate.Nodup)
    (hschemas : ∀ name ∈ r.filesToGenerate, Text.endsWith schemaSuffix name = true) :
    ∃ parameters, Parameters.parse (effectiveParameter r override) = .ok parameters ∧
      ((response.files.map (·.name)).Nodup ↔
        (parameters.service = .grpcNode → ∀ name ∈ r.filesToGenerate, ∀ d,
          r.fileNamed? name = some d → d.services ≠ [] → rival name ∉ r.filesToGenerate)) ∧
      (parameters.service = .grpcNode → ∀ name ∈ r.filesToGenerate, ∀ d,
        r.fileNamed? name = some d → d.services ≠ [] → rival name ∈ r.filesToGenerate →
        ∃ index f g stubs declaration, f.name = name ∧ g.name = rival name ∧
          Emits r override index f .nodeDeclaration stubs ∧
          Emits r override index g .declaration declaration ∧
          (response.files.filter fun o => o.name = stem name ++ "_grpc_pb.d.ts").Perm
            [stubs, declaration]) := by
  obtain ⟨parameters, -, -, -, hparameters, -⟩ := generate_eq_ok.mp h
  obtain ⟨index, fs, hfs, hemits⟩ := emits_files h hparameters
  have hdescriptors := exists_descriptor_of_emits hemits
  have hnames := map_related hemits fun x _ o ho => ho.makes.name
  change List.Forall₂ _ (Schema.labelledArtifacts parameters.service fs) _ at hemits
  change _ = (Schema.labelledArtifacts parameters.service fs).map _ at hnames
  rw [← hfs] at hrequested hschemas
  -- The services of a file are those of its descriptor, for which the request is asked.
  have hnode {f : Schema.File} (hf : f ∈ fs) {d : Descriptor.File}
      (hd : r.fileNamed? f.name = some d) : f.services = [] ↔ d.services = [] := by
    obtain ⟨d', hd', hload⟩ := hdescriptors f hf
    cases hd.symm.trans hd'
    exact Schema.File.services_eq_nil_of_load hload
  refine ⟨parameters, hparameters, ?_, ?_⟩
  · rw [hnames, Schema.nodup_fileNames_iff hrequested hschemas, ← hfs]
    simp only [Schema.nodeDeclaration_mem_labelledArtifacts]
    constructor
    · intro hrivals hservice name hname d hd hservices
      obtain ⟨f, hf, rfl⟩ := List.mem_map.mp hname
      exact hrivals f ⟨hf, hservice, (hnode hf hd).not.mpr hservices⟩
    · rintro hrivals f ⟨hf, hservice, hservices⟩
      obtain ⟨d, hd, -⟩ := hdescriptors f hf
      exact hrivals hservice f.name (List.mem_map_of_mem hf) d hd ((hnode hf hd).not.mp hservices)
  · rw [← hfs]
    intro hservice name hname d hd hservices hrival
    obtain ⟨f, hf, rfl⟩ := List.mem_map.mp hname
    obtain ⟨g, hg, hgname⟩ := List.mem_map.mp hrival
    have hlabel := Schema.nodeDeclaration_mem_labelledArtifacts.mpr
      ⟨hf, hservice, (hnode hf hd).not.mpr hservices⟩
    obtain ⟨stubs, declaration, hstubs, hdeclaration, hperm⟩ :=
      exists_outputs_of_rival hrequested hschemas hemits hlabel hg hgname
    exact ⟨index, f, g, stubs, declaration, rfl, hgname, hstubs, hdeclaration, hperm⟩

theorem callerRequest_output_names :
    ∃ response, generate callerRequest (some "service=grpc-node") = .ok response ∧
      (response.files.map (·.name)).Nodup := by
  obtain ⟨response, hresponse⟩ : Succeeds (generate callerRequest (some "service=grpc-node")) := by
    decide
  obtain ⟨parameters, -, hnodup, -⟩ := nodup_output_names_iff hresponse (by decide) (by decide)
  have hrivals : ∀ name ∈ callerRequest.filesToGenerate, rival name ∉ callerRequest.filesToGenerate := by
    decide
  exact ⟨response, hresponse, hnodup.mpr fun _ name hname _ _ _ => hrivals name hname⟩

/-- Node stubs of a file, and the declaration of its rival. -/
def rivalRequest : Descriptor.Request where
  filesToGenerate := ["a.proto", "a_grpc.proto"]
  parameter := some "service=grpc-node"
  files := [
    { name := some "a.proto", services := [{ name := some "Caller" }] },
    { name := some "a_grpc.proto" }]

theorem rivalRequest_output_names :
    rivalRequest.filesToGenerate.Nodup ∧
      (∀ name ∈ rivalRequest.filesToGenerate, Text.endsWith schemaSuffix name = true) ∧
      ∃ response, generate rivalRequest none = .ok response ∧
        response.files.map (·.name) = ["a_pb.d.ts", "a_grpc_pb.d.ts", "a_grpc_pb.d.ts"] ∧
        ¬ (response.files.map (·.name)).Nodup := by
  refine ⟨by decide, by decide, ?_⟩
  obtain ⟨response, hresponse⟩ : Succeeds (generate rivalRequest none) := by decide
  have hnames : (generate rivalRequest none).map (fun a => a.files.map (·.name)) =
      .ok ["a_pb.d.ts", "a_grpc_pb.d.ts", "a_grpc_pb.d.ts"] := by rfl
  rw [hresponse] at hnames
  have hnames : response.files.map (·.name) = _ := Except.ok.inj hnames
  refine ⟨response, hresponse, hnames, ?_⟩
  rw [hnames]
  decide

end ProtoStubs
