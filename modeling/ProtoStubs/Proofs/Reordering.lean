import ProtoStubs.Proofs.Artifacts
import ProtoStubs.Proofs.Extending

/-!
# The order of the files of a request

A request may hand over its files in any order, and with them files that nothing needs. As long as the
names of files and of types stay distinct, the answer is the same: each name that a run looks up is
declared once, wherever its declaration stands.
-/

namespace ProtoStubs

/-- The second request hands over the files of the first one in some order, mixed with further files. All
names are distinct, and the further files can be loaded and indexed. -/
structure Descriptor.Request.Rearranges (r' r : Descriptor.Request)
    (further : List Descriptor.File) : Prop where
  filesToGenerate : r'.filesToGenerate = r.filesToGenerate
  parameter : r'.parameter = r.parameter
  files : r'.files.Perm (r.files ++ further)
  fileNames : (r'.files.map (·.ownName)).Nodup
  messageNames : r'.messageNames.Nodup
  enumNames : r'.enumNames.Nodup
  load : ∀ d ∈ further, ∃ f, Schema.File.load d = .ok f
  pairTypes : ∀ d ∈ further, ∀ p ∈ d.allMessages, p.2.isMapEntry = true →
    (∃ f ∈ p.2.fields, f.ownName = "key") ∧ ∃ f ∈ p.2.fields, f.ownName = "value"

namespace Generate

open Schema

variable {r : Descriptor.Request} {files : List Schema.File} {index : TypeIndex}

theorem Loaded.uniqueEnum (h : Loaded r files index) (hnames : r.enumNames.Nodup)
    {f g : Schema.File} (hf : f ∈ files) (hg : g ∈ files) {x y : Enum} (hx : x ∈ f.allEnums)
    (hy : y ∈ g.allEnums) (heq : y.fullName = x.fullName) : g = f ∧ y = x := by
  have hall : (files.flatMap fun f => f.orderedEnums.map (·.fullName)) = r.enumNames :=
    flatMap_related h.load fun d _ f hd => File.enumNames_eq hd
  rw [← hall] at hnames
  exact eq_of_nodup_names hnames hf hg (File.mem_orderedEnums.mpr hx) (File.mem_orderedEnums.mpr hy) heq

theorem Loaded.distinct (h : Loaded r files index) (hmessages : r.messageNames.Nodup)
    (henums : r.enumNames.Nodup) : index.Distinct := by
  intro e he e' he' hkind hname
  rcases (TypeIndex.mem_exports h.build).mp he with ⟨f, hf, m, hm, hem⟩ | ⟨f, hf, x, hx, rfl⟩
  · obtain ⟨hmkind, hmname, -⟩ := Export.ofMessage_eq_ok hem
    rcases (TypeIndex.mem_exports h.build).mp he' with ⟨g, hg, n, hn, hen⟩ | ⟨g, -, y, -, rfl⟩
    · rw [hmname, (Export.ofMessage_eq_ok hen).2.1] at hname
      obtain ⟨rfl, rfl⟩ := h.unique hmessages hf hg hm hn hname
      exact Except.ok.inj (hen.symm.trans hem)
    · rw [hmkind] at hkind
      cases hkind
  · rcases (TypeIndex.mem_exports h.build).mp he' with ⟨g, -, n, -, hen⟩ | ⟨g, hg, y, hy, rfl⟩
    · rw [(Export.ofMessage_eq_ok hen).1] at hkind
      cases hkind
    · obtain ⟨rfl, rfl⟩ := h.uniqueEnum henums hf hg hx hy hname
      rfl

theorem exports_subset {files' : List Schema.File} {index' : TypeIndex}
    (h : TypeIndex.ofFiles files = .ok index) (h' : TypeIndex.ofFiles files' = .ok index')
    (hsub : files ⊆ files') : index.exports ⊆ index'.exports := by
  intro e he
  rw [TypeIndex.mem_exports h']
  rcases (TypeIndex.mem_exports h).mp he with ⟨f, hf, hem⟩ | ⟨f, hf, hex⟩
  · exact .inl ⟨f, hsub hf, hem⟩
  · exact .inr ⟨f, hsub hf, hex⟩

theorem fileNamed?_of_mem (hnames : (files.map (·.name)).Nodup) {f : Schema.File} (hf : f ∈ files) :
    fileNamed? files f.name = some f := by
  obtain ⟨g, hg⟩ : ∃ g, fileNamed? files f.name = some g := by
    rw [← Option.isSome_iff_exists, fileNamed?, List.getLast?_isSome]
    exact List.ne_nil_of_mem (List.mem_filter.mpr ⟨hf, by simp⟩)
  have hmem := (List.mem_filter.mp (List.mem_of_getLast? hg)).1
  rw [hg, List.inj_on_of_nodup_map hnames hmem hf (name_of_fileNamed? hg)]

theorem carries_outputs {larger : TypeIndex} (h : larger.Extends index) (parameters : Parameters)
    (f : Schema.File) : Carries (outputs index parameters f) (outputs larger parameters f) := by
  refine ((Declaration.File.carries_link h f).bind_left _).bind fun declaration => ?_
  exact (Service.carries_files h parameters f).bind_left _

section Rearranged

variable {r' : Descriptor.Request} {further : List Descriptor.File}

theorem exists_loaded_of_rearranges (h : r'.Rearranges r further) (hl : Loaded r files index) :
    ∃ files' index', Loaded r' files' index' ∧ files ⊆ files' := by
  have hmem {d : Descriptor.File} : d ∈ r'.files ↔ d ∈ r.files ∨ d ∈ further := by
    rw [h.files.mem_iff, List.mem_append]
  have hload : Succeeds (r'.files.mapM File.load) := by
    rw [succeeds_mapM]
    intro d hd
    rcases hmem.mp hd with hd | hd
    · obtain ⟨f, -, hf⟩ := exists_related hl.load hd
      exact ⟨f, hf⟩
    · exact h.load d hd
  obtain ⟨files', hfiles'⟩ := hload
  have hfiles' := mapM_eq_ok.mp hfiles'
  have hbuild : Succeeds (TypeIndex.ofFiles files') := by
    rw [TypeIndex.succeeds_ofFiles]
    intro f hf
    obtain ⟨d, hd, hdf⟩ := (mem_results hfiles').mp hf
    rcases hmem.mp hd with hd | hd
    · exact TypeIndex.succeeds_ofFiles.mp ⟨index, hl.build⟩ f ((mem_results hl.load).mpr ⟨d, hd, hdf⟩)
    · exact (pairTypes_iff hdf).mpr (h.pairTypes d hd)
  obtain ⟨index', hindex'⟩ := hbuild
  refine ⟨files', index', ⟨hfiles', hindex'⟩, ?_⟩
  intro f hf
  obtain ⟨d, hd, hdf⟩ := (mem_results hl.load).mp hf
  exact (mem_results hfiles').mpr ⟨d, hmem.mpr (.inl hd), hdf⟩

theorem carries_outputsFor {files' : List Schema.File} {larger : TypeIndex}
    (hnames : (files'.map (·.name)).Nodup) (hsub : files ⊆ files') (h : larger.Extends index)
    (parameters : Parameters) (name : String) :
    Carries (outputsFor files index parameters name) (outputsFor files' larger parameters name) := by
  refine Carries.bind ?_ fun f => carries_outputs h parameters f
  intro f hf
  have hf := require_eq_ok.mp hf
  have hmem := (List.mem_filter.mp (List.mem_of_getLast? hf)).1
  rw [require_eq_ok, ← name_of_fileNamed? hf]
  exact fileNamed?_of_mem hnames (hsub hmem)

end Rearranged

end Generate

open Generate

/-- What a request answers does not depend on the order of its files, nor on files that it does not need. -/
theorem generate_of_rearranges {r r' : Descriptor.Request} {further : List Descriptor.File}
    (h : r'.Rearranges r further) {override : Option String} {response : Response}
    (hr : generate r override = .ok response) : generate r' override = .ok response := by
  obtain ⟨parameters, files, index, groups, hparameters, hl, hgroups, rfl⟩ := generate_eq_ok.mp hr
  obtain ⟨files', index', hl', hsub⟩ := exists_loaded_of_rearranges h hl
  have hnames : (files'.map (·.name)).Nodup := by
    rw [map_related hl'.load fun d _ f hd => (Schema.File.loadedFrom hd).name]
    exact h.fileNames
  have hextends : index'.Extends index := TypeIndex.extends_of_subset
    (hl'.distinct h.messageNames h.enumNames) (exports_subset hl.build hl'.build hsub)
  refine generate_eq_ok.mpr ⟨parameters, files', index', groups, ?_, hl', ?_, rfl⟩
  · rw [effectiveParameter, h.parameter]
    exact hparameters
  · rw [h.filesToGenerate]
    exact hgroups.imp fun name group hgroup =>
      carries_outputsFor hnames hsub hextends parameters name group hgroup

/-- The files stand the other way round, and after one that neither needs. -/
def rearrangedRequest : Descriptor.Request where
  filesToGenerate := ["a/caller.proto", "b/answer.proto"]
  parameter := some "service=grpc-web"
  files := mapRequest.files ++ [answerFile, callerFile]

theorem rearrangedRequest_answer :
    rearrangedRequest.Rearranges callerRequest mapRequest.files ∧
      ∃ response, generate callerRequest none = .ok response ∧
        generate rearrangedRequest none = .ok response := by
  have hrearranges : rearrangedRequest.Rearranges callerRequest mapRequest.files := {
    filesToGenerate := rfl
    parameter := rfl
    files := List.perm_append_comm.trans ((List.Perm.swap _ _ _).append_right _)
    fileNames := by decide
    messageNames := by decide
    enumNames := by decide
    load := by
      change ∀ d ∈ mapRequest.files, Succeeds (Schema.File.load d)
      decide
    pairTypes := by decide }
  obtain ⟨response, hresponse⟩ : Succeeds (generate callerRequest none) := by decide
  exact ⟨hrearranges, response, hresponse, generate_of_rearranges hrearranges hresponse⟩

end ProtoStubs
