import ProtoStubs.Proofs.Artifacts
import ProtoStubs.Proofs.RelativePaths

/-!
# Where imports lead

All artifacts of a file stand in one directory. The path under which one of them imports another file leads
from there to the place of that file's module, whatever the depth of the two.
-/

namespace ProtoStubs

open SourcePath

theorem Artifact.directory_fileName (schema : String) (a : Artifact) :
    directory (a.fileName schema) = directory schema := by
  cases a with
  | declaration => exact (directory_append (by decide)).trans (directory_modulePath schema)
  | webDeclaration => exact (directory_append (by decide)).trans (directory_modulePath schema)
  | webScript => exact (directory_append (by decide)).trans (directory_modulePath schema)
  | nodeDeclaration => exact (directory_append (by decide)).trans (directory_stem schema)

open Generate

/-- A relative import leads from the artifact to the file under whose name the declaration of the imported
file is emitted, by any run that is asked for it. -/
theorem imports_resolve {r : Descriptor.Request} {override : Option String} {response : Response}
    (h : generate r override = .ok response) :
    (∀ o ∈ response.files, ∃ index f a, Emits r override index f a o) ∧
      ∀ index f a o, Emits r override index f a o → a.Makes index f o ∧
        ∀ target ∈ a.imports index f, IsPlain target → target ∉ bundledSchemas →
          ∃ place, resolve (directory o.name) (importPath f.name target) = some place ∧
            ∀ r' override' response', generate r' override' = .ok response' →
              target ∈ r'.filesToGenerate →
                (∃ index' g o', g.name = target ∧ Emits r' override' index' g .declaration o') ∧
                ∀ index' g o', g.name = target → Emits r' override' index' g .declaration o' →
                  o' ∈ response'.files ∧ o'.name = place ++ ".d.ts" := by
  refine ⟨fun o ho => (mem_files_iff h).mp ho, ?_⟩
  intro index f a o he
  refine ⟨he.makes, ?_⟩
  intro target _ hplain hbundled
  refine ⟨modulePath target, ?_, ?_⟩
  · rw [he.makes.name, Artifact.directory_fileName, importPath, if_neg hbundled]
    exact resolve_relativeImport f.name hplain
  · intro r' override' response' h' htarget
    refine ⟨exists_emits_declaration h' htarget, ?_⟩
    rintro index' g o' rfl he'
    exact ⟨(mem_files_iff h').mpr ⟨index', g, _, he'⟩, he'.makes.name⟩

theorem callerRequest_imports_resolve :
    ∃ response, generate callerRequest none = .ok response ∧
      ∃ index f o place, Emits callerRequest none index f .declaration o ∧
        "b/answer.proto" ∈ Artifact.imports index f .declaration ∧
        IsPlain "b/answer.proto" ∧ "b/answer.proto" ∉ bundledSchemas ∧
        resolve (directory o.name) (importPath f.name "b/answer.proto") = some place ∧
        ∃ o' ∈ response.files, o'.name = place ++ ".d.ts" := by
  obtain ⟨response, hresponse⟩ : Succeeds (generate callerRequest none) := by decide
  have hcaller : callerRequest.fileNamed? "a/caller.proto" = some callerFile := by rfl
  obtain ⟨index, f, o, hload, he⟩ := exists_emits_of_fileNamed? hresponse (by decide) hcaller
  have htarget : "b/answer.proto" ∈ Artifact.imports index f .declaration := by
    rw [Artifact.imports, Schema.File.dependencies_of_load hload]
    exact List.mem_append_left _ (by decide)
  obtain ⟨-, hall⟩ := imports_resolve hresponse
  obtain ⟨place, hplace, hemitted⟩ := (hall index f .declaration o he).2 _ htarget (by decide) (by decide)
  obtain ⟨⟨index', g, o', hg, he'⟩, hnamed⟩ := hemitted _ _ _ hresponse (by decide)
  obtain ⟨ho', hname'⟩ := hnamed index' g o' hg he'
  exact ⟨response, hresponse, index, f, o, place, he, htarget, by decide, by decide, hplace, o', ho',
    hname'⟩

end ProtoStubs
