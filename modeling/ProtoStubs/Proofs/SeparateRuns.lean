import ProtoStubs.Proofs.Artifacts
import ProtoStubs.Proofs.Indexing

/-!
# Generating files one at a time

A run prepares once: it decodes its parameter, loads all files and indexes their types. What it then makes
of a requested file depends on the preparation alone. So a run for several files is a run for each of them,
and its error is that of the preparation or of the first file that fails by itself.
-/

namespace ProtoStubs

def Descriptor.Request.asking (r : Descriptor.Request) (names : List String) : Descriptor.Request :=
  { r with filesToGenerate := names }

namespace Generate

/-- What a run has at hand before it makes any output. -/
structure Prepared where
  parameters : Parameters
  files : List Schema.File
  index : TypeIndex

def prepare (r : Descriptor.Request) (override : Option String) : Except GenerationError Prepared := do
  let parameters ← Parameters.parse (effectiveParameter r override)
  let files ← r.files.mapM Schema.File.load
  let index ← TypeIndex.ofFiles files
  return { parameters, files, index }

def Prepared.outputs (s : Prepared) (name : String) : Except GenerationError (List OutputFile) :=
  outputsFor s.files s.index s.parameters name

/-- The declaration of the file with this name, under the path of its module, and then the files of its
services. -/
def Prepared.IsGroup (s : Prepared) (name : String) (group : List OutputFile) : Prop :=
  ∃ f declaration stubs, fileNamed? s.files name = some f ∧ f.name = name ∧
    Declaration.text s.index f = .ok declaration ∧ Service.files s.index s.parameters f = .ok stubs ∧
    group = ⟨SourcePath.modulePath name ++ ".d.ts", declaration⟩ :: stubs

variable {r : Descriptor.Request} {override : Option String} {s : Prepared} {names : List String}
  {name : String} {e : GenerationError}

theorem Prepared.isGroup_of_outputs {group : List OutputFile} (h : s.outputs name = .ok group) :
    s.IsGroup name group := by
  obtain ⟨f, hf, hgroup⟩ := bind_eq_ok.mp h
  obtain ⟨declaration, hdeclaration, hgroup⟩ := bind_eq_ok.mp hgroup
  obtain ⟨stubs, hstubs, hgroup⟩ := bind_eq_ok.mp hgroup
  have hf := require_eq_ok.mp hf
  obtain rfl := name_of_fileNamed? hf
  exact ⟨f, declaration, stubs, hf, rfl, hdeclaration, hstubs, (pure_eq_ok.mp hgroup).symm⟩

theorem generate_asking (r : Descriptor.Request) (override : Option String) (names : List String) :
    generate (r.asking names) override = do
      let s ← prepare r override
      let groups ← names.mapM s.outputs
      return { files := groups.flatten } := by
  simp only [generate, prepare, bind_assoc, pure_bind]
  rfl

theorem generate_asking_of_error (h : prepare r override = .error e) (names : List String) :
    generate (r.asking names) override = .error e := by
  rw [generate_asking, h]
  rfl

theorem generate_asking_of_ok (h : prepare r override = .ok s) (names : List String) :
    generate (r.asking names) override = do return { files := (← names.mapM s.outputs).flatten } := by
  rw [generate_asking, h]
  rfl

theorem generate_asking_nil (h : prepare r override = .ok s) :
    generate (r.asking []) override = .ok { files := [] } := by
  rw [generate_asking_of_ok h]
  rfl

theorem generate_asking_singleton (h : prepare r override = .ok s) (name : String) :
    generate (r.asking [name]) override = do return { files := ← s.outputs name } := by
  rw [generate_asking_of_ok h, List.mapM_cons]
  cases s.outputs name with
  | error e => rfl
  | ok group => simp [bind, Except.bind, pure, Except.pure]

theorem generate_asking_singleton_eq_ok (h : prepare r override = .ok s) {part : Response} :
    generate (r.asking [name]) override = .ok part ↔
      ∃ group, s.outputs name = .ok group ∧ { files := group } = part := by
  rw [generate_asking_singleton h, bind_eq_ok]
  simp only [pure_eq_ok]

theorem generate_asking_singleton_eq_error (h : prepare r override = .ok s) :
    generate (r.asking [name]) override = .error e ↔ s.outputs name = .error e := by
  rw [generate_asking_singleton h, bind_pure_eq_error]

theorem succeeds_generate_asking_singleton (h : prepare r override = .ok s) :
    Succeeds (generate (r.asking [name]) override) ↔ Succeeds (s.outputs name) := by
  rw [generate_asking_singleton h, succeeds_bind_of_total fun _ => succeeds_pure _]

theorem succeeds_generate_asking (h : prepare r override = .ok s) :
    Succeeds (generate (r.asking names) override) ↔ ∀ name ∈ names, Succeeds (s.outputs name) := by
  rw [generate_asking_of_ok h, succeeds_bind_of_total fun _ => succeeds_pure _, succeeds_mapM]

/-- The results of a run are those of the runs for its single files, each after the ones before it. -/
theorem exists_parts (h : prepare r override = .ok s) {response : Response}
    (hresponse : generate (r.asking names) override = .ok response) :
    ∃ parts : List Response,
      List.Forall₂ (fun name part => generate (r.asking [name]) override = .ok part ∧
        s.IsGroup name part.files) names parts ∧
      response = { files := parts.flatMap (·.files) } := by
  rw [generate_asking_of_ok h] at hresponse
  obtain ⟨groups, hgroups, hresponse⟩ := bind_eq_ok.mp hresponse
  have hparts := mapM_eq_ok.mp hgroups
  refine ⟨groups.map fun group => { files := group }, ?_, ?_⟩
  · rw [List.forall₂_map_right_iff]
    refine hparts.imp fun name group hgroup => ⟨?_, s.isGroup_of_outputs hgroup⟩
    exact (generate_asking_singleton_eq_ok h).mpr ⟨group, hgroup, rfl⟩
  · rw [← pure_eq_ok.mp hresponse, List.flatMap_map, List.flatMap_id']

theorem generate_asking_eq_error (h : prepare r override = .ok s) :
    generate (r.asking names) override = .error e ↔
      ∃ name, IsFirst (fun name => ¬ Succeeds (generate (r.asking [name]) override)) names name ∧
        generate (r.asking [name]) override = .error e := by
  rw [generate_asking_of_ok h, bind_pure_eq_error, mapM_eq_error]
  simp only [succeeds_generate_asking_singleton h, generate_asking_singleton_eq_error h]

end Generate

open Generate

/-- A run for several files is a run for each of them. What is made of a file, and what is wrong with it,
does not depend on the files that are generated before it. -/
theorem generate_separately (r : Descriptor.Request) (override : Option String) :
    (Succeeds (generate r override) ↔ Succeeds (generate (r.asking []) override) ∧
      ∀ name ∈ r.filesToGenerate, Succeeds (generate (r.asking [name]) override)) ∧
    (∀ response, generate r override = .ok response →
      ∃ s parts, prepare r override = .ok s ∧
        List.Forall₂ (fun name (part : Response) => generate (r.asking [name]) override = .ok part ∧
          s.IsGroup name part.files) r.filesToGenerate parts ∧
        response = { files := parts.flatMap (·.files) }) ∧
    ∀ e, generate r override = .error e ↔
      generate (r.asking []) override = .error e ∨
        Succeeds (generate (r.asking []) override) ∧
          ∃ name,
            IsFirst (fun name => ¬ Succeeds (generate (r.asking [name]) override)) r.filesToGenerate name ∧
            generate (r.asking [name]) override = .error e := by
  have hself : r.asking r.filesToGenerate = r := rfl
  -- A preparation does not look at the files to generate, so a failed one fails every run alike.
  cases h : prepare r override with
  | error e =>
    have herror names := generate_asking_of_error h names
    have hr := hself ▸ herror r.filesToGenerate
    simp only [hr, herror, not_succeeds_error, false_and, or_false, true_and, reduceCtorEq, false_imp_iff,
      implies_true, iff_self]
  | ok s =>
    have hnil := generate_asking_nil h
    refine ⟨?_, ?_, ?_⟩
    · rw [← hself, succeeds_generate_asking h]
      simp only [hself, hnil, succeeds_ok, true_and, succeeds_generate_asking_singleton h]
    · intro response hresponse
      obtain ⟨parts, hparts, rfl⟩ := exists_parts h hresponse
      exact ⟨s, parts, rfl, hparts, rfl⟩
    · intro e
      simp only [hnil, reduceCtorEq, false_or, succeeds_ok, true_and]
      exact generate_asking_eq_error h

end ProtoStubs
