import Mathlib.Data.List.Forall2
import Mathlib.Data.List.Nodup
import Mathlib.Data.Set.Operations
import ProtoStubs.Proofs.OutputNames

/-!
# The names of imported modules

The name under which a module is imported keeps all characters of the stem of its file but the separators,
which all become low lines. So two files share a name exactly if their stems differ in nothing but their
separators, and where no two imports of an artifact are alike in this way, every qualified type belongs to
the one file that its name stands for.
-/

namespace ProtoStubs

namespace SourcePath

def IsSeparator (c : Char) : Prop := c = '/' ∨ c = '.' ∨ c = '-' ∨ c = '_'

instance (c : Char) : Decidable (IsSeparator c) := instDecidableOr

/-- The texts are equally long, and at every position they have the same character or two separators. -/
def Alike (s t : String) : Prop :=
  List.Forall₂ (fun c d => c = d ∨ IsSeparator c ∧ IsSeparator d) s.toList t.toList

instance (s t : String) : Decidable (Alike s t) :=
  inferInstanceAs (Decidable (List.Forall₂ _ s.toList t.toList))

theorem flattenChar_of_isSeparator {c : Char} (h : IsSeparator c) : flattenChar c = '_' := by
  rcases h with rfl | rfl | rfl | rfl <;> rfl

theorem flattenChar_of_not_isSeparator {c : Char} (h : ¬ IsSeparator c) : flattenChar c = c := by
  rw [IsSeparator, not_or, not_or, not_or] at h
  rw [flattenChar, if_neg (by tauto)]

theorem isSeparator_flattenChar {c : Char} : IsSeparator (flattenChar c) ↔ IsSeparator c := by
  by_cases h : IsSeparator c
  · rw [flattenChar_of_isSeparator h, iff_true_right h]
    decide
  · rw [flattenChar_of_not_isSeparator h]

theorem flattenChar_eq_iff {c d : Char} :
    flattenChar c = flattenChar d ↔ c = d ∨ IsSeparator c ∧ IsSeparator d := by
  constructor
  · intro h
    have hboth : IsSeparator c ↔ IsSeparator d := by
      rw [← isSeparator_flattenChar, h, isSeparator_flattenChar]
    by_cases hc : IsSeparator c
    · exact .inr ⟨hc, hboth.mp hc⟩
    · left
      rwa [flattenChar_of_not_isSeparator hc, flattenChar_of_not_isSeparator (hboth.not.mp hc)] at h
  · intro h
    rcases h with rfl | ⟨hc, hd⟩
    · rfl
    · rw [flattenChar_of_isSeparator hc, flattenChar_of_isSeparator hd]

theorem namespaceName_eq_iff {p q : String} :
    namespaceName p = namespaceName q ↔ Alike (stem p) (stem q) := by
  rw [namespaceName, namespaceName, String.append_left_inj, String.ofList_inj, Alike,
    ← List.forall₂_eq_eq_eq, List.forall₂_map_left_iff, List.forall₂_map_right_iff]
  simp only [flattenChar_eq_iff]

theorem alike_iff_getElem? {s t : String} :
    Alike s t ↔ s.length = t.length ∧ ∀ (i : Nat) (c d : Char), s.toList[i]? = some c → t.toList[i]? = some d →
      c = d ∨ IsSeparator c ∧ IsSeparator d := by
  rw [Alike, List.forall₂_iff_get, ← String.length_toList, ← String.length_toList]
  refine and_congr_right fun hlength => ⟨?_, ?_⟩
  · intro h i c d hc hd
    obtain ⟨hi, rfl⟩ := List.getElem?_eq_some_iff.mp hc
    obtain ⟨hj, rfl⟩ := List.getElem?_eq_some_iff.mp hd
    exact h i hi hj
  · intro h i hi hj
    exact h i _ _ (List.getElem?_eq_getElem _) (List.getElem?_eq_getElem _)

theorem length_namespaceName (path : String) : (namespaceName path).length = (stem path).length + 3 := by
  have hsuffix : moduleSuffix.length = 3 := rfl
  rw [namespaceName, String.length_append, String.length_ofList, List.length_map, String.length_toList, hsuffix]

theorem flattenChar_ne (c : Char) : flattenChar c ∉ ['/', '.', '-'] := by
  by_cases h : IsSeparator c
  · rw [flattenChar_of_isSeparator h]
    decide
  · rw [flattenChar_of_not_isSeparator h]
    simp only [List.mem_cons, List.not_mem_nil, or_false]
    exact fun hmem => h (by unfold IsSeparator; tauto)

theorem not_mem_namespaceName {path : String} {c : Char} (hc : c ∈ (namespaceName path).toList) :
    c ∉ ['/', '.', '-'] := by
  have hsuffix : ∀ c ∈ moduleSuffix.toList, c ∉ ['/', '.', '-'] := by simp [moduleSuffix]
  rw [namespaceName, String.toList_append, String.toList_ofList, List.mem_append, List.mem_map] at hc
  rcases hc with ⟨d, -, rfl⟩ | hc
  · exact flattenChar_ne d
  · exact hsuffix c hc

/-- Without separators but `/`, texts that are alike are the same. -/
theorem Alike.eq {s t : String} (h : Alike s t) (hs : ∀ c ∈ s.toList, c ∉ ['.', '-', '_'])
    (ht : ∀ c ∈ t.toList, c ∉ ['.', '-', '_']) : s = t := by
  have hslash {c : Char} (hc : c ∉ ['.', '-', '_']) (hsep : IsSeparator c) : c = '/' := by
    simp only [List.mem_cons, List.not_mem_nil, or_false] at hc
    unfold IsSeparator at hsep
    tauto
  obtain ⟨hlength, hchars⟩ := alike_iff_getElem?.mp h
  rw [← String.toList_inj]
  rw [← String.length_toList, ← String.length_toList] at hlength
  refine List.ext_getElem hlength fun i hi hj => ?_
  rcases hchars i _ _ (List.getElem?_eq_getElem hi) (List.getElem?_eq_getElem hj) with heq | ⟨hc, hd⟩
  · exact heq
  · rw [hslash (hs _ (List.getElem_mem hi)) hc, hslash (ht _ (List.getElem_mem hj)) hd]

/-- Which paths share a name: those whose stems differ in nothing but their separators. A name is as long as
the stem and its suffix, and has no separator but the low line. Paths to schemas whose stems have no separator
but `/` have names of their own. -/
theorem namespaceName_shared :
    (∀ p : String, Text.endsWith ".proto" p = true ∧ p = stem p ++ ".proto" ∨
      Text.endsWith ".proto" p = false ∧ p = stem p) ∧
    (∀ p q : String, namespaceName p = namespaceName q ↔
      (stem p).length = (stem q).length ∧
        ∀ (i : Nat) (c d : Char), (stem p).toList[i]? = some c → (stem q).toList[i]? = some d →
          c = d ∨ IsSeparator c ∧ IsSeparator d) ∧
    (∀ p : String, (namespaceName p).length = (stem p).length + 3 ∧
      ∀ c ∈ (namespaceName p).toList, c ∉ ['/', '.', '-']) ∧
    Set.InjOn namespaceName
      {p | Text.endsWith ".proto" p = true ∧ ∀ c ∈ (stem p).toList, c ∉ ['.', '-', '_']} := by
  refine ⟨fun p => ?_, fun p q => ?_, fun p => ⟨length_namespaceName p, ?_⟩, ?_⟩
  · cases h : Text.endsWith ".proto" p with
    | true => exact .inl ⟨rfl, (stem_append h).symm⟩
    | false => exact .inr ⟨rfl, (stem_of_not_endsWith h).symm⟩
  · rw [namespaceName_eq_iff, alike_iff_getElem?]
  · exact fun c hc => not_mem_namespaceName hc
  · rintro p ⟨hp, hpstem⟩ q ⟨hq, hqstem⟩ h
    exact (Artifact.stem_inj hp hq).mp ((namespaceName_eq_iff.mp h).eq hpstem hqstem)

example : namespaceName "examplecom/a-b.proto" = namespaceName "examplecom.a_b" := by decide +kernel

end SourcePath

open SourcePath

namespace Artifact

variable {index : TypeIndex} {f : Schema.File}

theorem nodup_imports (h : f.dependencies.Nodup) (a : Artifact) : (a.imports index f).Nodup := by
  have hstubs : (f.stubImports index).Nodup := by
    rw [Schema.File.stubImports, List.nodup_cons]
    exact ⟨by simp, (nodup_eraseDups _).filter _⟩
  cases a with
  | declaration =>
    refine List.nodup_append'.mpr ⟨h, (nodup_eraseDups _).filter _, ?_⟩
    intro g hg hother
    exact (Declaration.mem_otherFiles.mp hother).2.1 hg
  | webDeclaration => exact hstubs
  | webScript => exact hstubs
  | nodeDeclaration => exact hstubs

theorem mem_imports_of_mem_qualified {a : Artifact} {e : Export} (h : e ∈ a.qualified index f) :
    e.fileName ∈ a.imports index f := by
  have hstubs (hmethod : e ∈ f.methodTypes index) : e.fileName ∈ f.stubImports index := by
    rw [Schema.File.stubImports, List.mem_cons, or_iff_not_imp_left]
    intro hown
    rw [List.mem_filter, List.mem_eraseDups]
    exact ⟨List.mem_map_of_mem hmethod, decide_eq_true hown⟩
  cases a with
  | declaration =>
    obtain ⟨href, hown⟩ := List.mem_filter.mp h
    rw [imports, List.mem_append, or_iff_not_imp_left]
    intro hdependency
    exact Declaration.mem_otherFiles.mpr ⟨of_decide_eq_true hown, hdependency, e, href, rfl⟩
  | webDeclaration => exact hstubs h
  | webScript => exact hstubs h
  | nodeDeclaration => exact hstubs h

end Artifact

open Generate

/-- The imports of an artifact have names of their own exactly if no two of them are alike. Then a type that
is named through an import can only be one of the file that the import stands for. -/
theorem nodup_import_names_iff {r : Descriptor.Request} {override : Option String} {response : Response}
    (h : generate r override = .ok response) (hdependencies : ∀ d ∈ r.files, d.dependencies.Nodup) :
    (∀ o ∈ response.files, ∃ index f a, Emits r override index f a o) ∧
      ∀ index f a o, Emits r override index f a o → a.Makes index f o ∧
        (((a.imports index f).map namespaceName).Nodup ↔
          ∀ p ∈ a.imports index f, ∀ q ∈ a.imports index f, Alike (stem p) (stem q) → p = q) ∧
        ∀ e ∈ a.qualified index f, e.fileName ∈ a.imports index f ∧
          (((a.imports index f).map namespaceName).Nodup → ∀ q ∈ a.imports index f,
            e.namespacedName = namespaceName q ++ "." ++ e.localName → q = e.fileName) := by
  refine ⟨fun o ho => (mem_files_iff h).mp ho, ?_⟩
  intro index f a o he
  have hnodup : (a.imports index f).Nodup := by
    obtain ⟨d, hd, hload⟩ := he.exists_descriptor
    apply Artifact.nodup_imports
    rw [Schema.File.dependencies_of_load hload]
    exact hdependencies d (List.mem_filter.mp (List.mem_of_getLast? hd)).1
  refine ⟨he.makes, ?_, ?_⟩
  · rw [List.nodup_map_iff_inj_on hnodup]
    simp only [namespaceName_eq_iff]
  · intro e hmem
    have himport := Artifact.mem_imports_of_mem_qualified hmem
    refine ⟨himport, ?_⟩
    intro hnames q hq hname
    rw [Export.namespacedName, String.append_left_inj, String.append_left_inj] at hname
    exact List.inj_on_of_nodup_map hnames hq himport hname.symm

/-- A file that imports two files whose paths differ in more than separators. -/
def unlikeFile : Descriptor.File where
  name := some "main.proto"
  dependencies := ["foo/bar.proto", "foo/baz.proto"]

def unlikeRequest : Descriptor.Request where
  filesToGenerate := ["main.proto"]
  files := [{ name := some "foo/bar.proto" }, { name := some "foo/baz.proto" }, unlikeFile]

theorem unlikeRequest_names :
    ∃ response, generate unlikeRequest none = .ok response ∧
      ∃ index f o, Emits unlikeRequest none index f .declaration o ∧
        Artifact.imports index f .declaration = ["foo/bar.proto", "foo/baz.proto"] ∧
        ((Artifact.imports index f .declaration).map namespaceName).Nodup := by
  obtain ⟨response, hresponse⟩ : Succeeds (generate unlikeRequest none) := by decide
  have hmain : unlikeRequest.fileNamed? "main.proto" = some unlikeFile := by rfl
  obtain ⟨index, f, o, hload, he⟩ := exists_emits_of_fileNamed? hresponse (by decide) hmain
  have himports : Artifact.imports index f .declaration = ["foo/bar.proto", "foo/baz.proto"] := by
    cases hload
    rfl
  obtain ⟨-, hall⟩ := nodup_import_names_iff hresponse (by decide)
  obtain ⟨-, hnames, -⟩ := hall index f .declaration o he
  refine ⟨response, hresponse, index, f, o, he, himports, hnames.mpr ?_⟩
  rw [himports]
  decide

/-- A file that imports two files whose paths differ in a separator. -/
def alikeFile : Descriptor.File where
  name := some "main.proto"
  dependencies := ["foo/bar.proto", "foo_bar.proto"]
  messages := [{
    name := some "Main"
    fields := [
      { name := some "x", number := some 1, type := some 11, typeName := some ".foo.Bar" },
      { name := some "y", number := some 2, type := some 11, typeName := some ".Bar" }] }]

def alikeRequest : Descriptor.Request where
  filesToGenerate := ["main.proto"]
  files := [
    { name := some "foo/bar.proto", package := some "foo", messages := [{ name := some "Bar" }] },
    { name := some "foo_bar.proto", messages := [{ name := some "Bar" }] }, alikeFile]

theorem alikeRequest_clash :
    (∀ d ∈ alikeRequest.files, d.dependencies.Nodup ∧ Text.endsWith ".proto" d.ownName = true) ∧
      ∃ response, generate alikeRequest none = .ok response ∧
        ∃ o ∈ response.files, ∃ (index : TypeIndex) (f : Schema.File) (a : Artifact), a.Makes index f o ∧
          ∃ p ∈ a.imports index f, ∃ q ∈ a.imports index f, p ≠ q ∧
            a.importLine f.name p = "import * as foo_bar_pb from \"./foo/bar_pb\";" ∧
            a.importLine f.name q = "import * as foo_bar_pb from \"./foo_bar_pb\";" := by
  refine ⟨by decide, ?_⟩
  obtain ⟨response, hresponse⟩ : Succeeds (generate alikeRequest none) := by decide
  have hmain : alikeRequest.fileNamed? "main.proto" = some alikeFile := by rfl
  obtain ⟨index, f, o, hload, he⟩ := exists_emits_of_fileNamed? hresponse (by decide) hmain
  have hname : f.name = "main.proto" := (Schema.File.loadedFrom hload).name
  have himport {g : String} (hg : g ∈ alikeFile.dependencies) :
      g ∈ Artifact.imports index f .declaration := by
    rw [Artifact.imports, Schema.File.dependencies_of_load hload]
    exact List.mem_append_left _ hg
  refine ⟨response, hresponse, o, (mem_files_iff hresponse).mpr ⟨index, f, _, he⟩, index, f, _,
    he.makes, "foo/bar.proto", himport (by decide), "foo_bar.proto", himport (by decide), by decide,
    ?_, ?_⟩
  · rw [hname]
    decide
  · rw [hname]
    decide

end ProtoStubs
