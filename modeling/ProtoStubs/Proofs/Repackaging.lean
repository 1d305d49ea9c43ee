import Mathlib.Data.List.Pairwise
import ProtoStubs.Proofs.Artifacts
import ProtoStubs.Proofs.Packages

/-!
# Giving a file another package

A file can be given another package, and all references to its types their new names. If the full names of
all types are distinct before and after, no text changes but the comment that names the package.
-/

namespace ProtoStubs

open Schema (Bare IsRenaming Moves qualify bareTypeName)
open Text (IsDotted)

section Extend

theorem exists_longer (names : List String) :
    ∃ mark : String, ∀ name ∈ names, name.toList.length < mark.toList.length := by
  induction names with
  | nil => exact ⟨"", by simp⟩
  | cons name names ih =>
    obtain ⟨mark, hmark⟩ := ih
    refine ⟨mark ++ name ++ "_", ?_⟩
    rw [List.forall_mem_cons]
    simp only [String.toList_append, List.length_append]
    have hlow : "_".toList.length = 1 := rfl
    refine ⟨by omega, fun other hother => ?_⟩
    have := hmark other hother
    omega

/-- A renaming of some names extends to all others, which are marked in a way that is too long for any
name. -/
theorem exists_isRenaming {ρ : String → String} {names : List String} (hnodup : (names.map ρ).Nodup)
    (hnames : ∀ name ∈ names, name ≠ "" ∧ ρ name ≠ "" ∧ Bare (ρ name)) :
    ∃ ρ', IsRenaming ρ' ∧ ∀ name ∈ names, ρ' name = ρ name := by
  obtain ⟨mark, hmark⟩ := exists_longer (names.map ρ)
  let ρ' : String → String := fun name =>
    if name = "" then "" else if name ∈ names then ρ name else name ++ mark
  have hold : ∀ name ∈ names, ρ' name = ρ name := fun name hmem => by
    simp only [ρ', if_neg (hnames name hmem).1, if_pos hmem]
  have hcases (name : String) : (name = "" ∧ ρ' name = "") ∨ (name ∈ names ∧ ρ' name = ρ name) ∨
      (name ≠ "" ∧ ρ' name = name ++ mark) := by
    by_cases hempty : name = ""
    · exact .inl ⟨hempty, if_pos hempty⟩
    · by_cases hmem : name ∈ names
      · exact .inr (.inl ⟨hmem, hold name hmem⟩)
      · exact .inr (.inr ⟨hempty, by simp only [ρ', if_neg hempty, if_neg hmem]⟩)
  have hmarked (other : String) : ∀ name ∈ names, ρ name ≠ other ++ mark := fun name hmem heq => by
    have hlength := hmark _ (List.mem_map_of_mem hmem)
    rw [heq, String.toList_append, List.length_append] at hlength
    omega
  refine ⟨ρ', ⟨fun a b hab => ?_, if_pos rfl, fun name hname => ?_⟩, hold⟩
  · rcases hcases a with ⟨rfl, ha⟩ | ⟨hmem, ha⟩ | ⟨hne, ha⟩ <;>
      rcases hcases b with ⟨rfl, hb⟩ | ⟨hmem', hb⟩ | ⟨hne', hb⟩ <;> simp only [ha, hb] at hab
    · rfl
    · exact absurd hab.symm (hnames b hmem').2.1
    · exact absurd (String.append_eq_empty_iff.mp hab.symm).1 hne'
    · exact absurd hab (hnames a hmem).2.1
    · exact List.inj_on_of_nodup_map hnodup hmem hmem' hab
    · exact absurd hab (hmarked b a hmem)
    · exact absurd (String.append_eq_empty_iff.mp hab).1 hne
    · exact absurd hab.symm (hmarked a b hmem')
    · exact (String.append_left_inj mark).mp hab
  · rcases hcases name with ⟨-, h⟩ | ⟨hmem, h⟩ | ⟨hne, h⟩ <;> rw [h]
    · exact Schema.bare_empty
    · exact (hnames name hmem).2.2
    · exact Schema.bare_append hname hne mark

end Extend

namespace Descriptor

/-- The full name that a type has after the file `f` is in the package `pkg`. -/
def File.renaming (f : File) (pkg name : String) : String :=
  if name ∈ f.typeNames then qualify pkg (Identifier.withinPackage f.ownPackage name) else name

/-- A file of a request in which `f` is given the package `pkg`. -/
def File.repackage (f : File) (pkg : String) (d : File) : File :=
  d.rename (f.renaming pkg) (if d.ownName = f.ownName then some pkg else d.package)

/-- All types are named by segments, all references are to declared types, and distinct names stay
distinct when `f` is given the package `pkg`. -/
structure Repackages (ds : List File) (f : File) (pkg : String) : Prop where
  mem : f ∈ ds
  package : IsDotted pkg
  named : ∀ d ∈ ds, d.NamesTypes
  references : ∀ d ∈ ds, ∀ t ∈ d.references, t ≠ "" → bareTypeName t ∈ ds.flatMap File.typeNames
  fileNames : (ds.map File.ownName).Nodup
  before : (ds.flatMap File.typeNames).Nodup
  after : ((ds.map (f.repackage pkg)).flatMap File.typeNames).Nodup

/-- What is made of one file of a list, with the types of all of them. -/
def withTypesOf {α : Type} (ds : List File) (d : File)
    (make : TypeIndex → Schema.File → Except GenerationError α) : Except GenerationError α := do
  let index ← TypeIndex.ofFiles (← ds.mapM Schema.File.load)
  make index (← Schema.File.load d)

namespace Repackages

variable {ds : List File} {f : File} {pkg : String} (h : Repackages ds f pkg)

include h

theorem eq_of_ownName {d : File} (hd : d ∈ ds) (hname : d.ownName = f.ownName) : d = f :=
  List.inj_on_of_nodup_map h.fileNames hd h.mem hname

theorem moves {d : File} (hd : d ∈ ds) :
    Moves (f.renaming pkg) d.ownPackage (f.repackage pkg d).ownPackage d.typeNames := by
  intro name hname
  by_cases heq : d.ownName = f.ownName
  · obtain rfl := h.eq_of_ownName hd heq
    rw [File.renaming, if_pos hname, Schema.withinPackage_qualify]
    simp [File.repackage, File.rename, File.ownPackage]
  · have hne : d ≠ f := fun he => heq (congrArg File.ownName he)
    have hdisjoint : qualify d.ownPackage name ∉ f.typeNames := by
      have hsymm : Std.Symm (Function.onFun List.Disjoint File.typeNames) :=
        ⟨fun _ _ hab _ ha hb => hab hb ha⟩
      exact (List.nodup_flatMap.mp h.before).2.forall hd h.mem hne hname
    rw [File.renaming, if_neg hdisjoint]
    simp [File.repackage, File.rename, File.ownPackage, heq]

theorem typeNames {d : File} (hd : d ∈ ds) :
    (f.repackage pkg d).typeNames = d.typeNames.map (f.renaming pkg) := by
  have hrelated := File.typeNames_rename (f.renaming pkg) (h.named d hd) (f.repackage pkg d).package
  have hnames := map_related hrelated (g := id) (k := f.renaming pkg) fun name hname name' hsame => by
    obtain ⟨inside, -, -, rfl, rfl⟩ := hsame
    exact (h.moves hd inside hname).symm
  rwa [List.map_id] at hnames

theorem flatMap_typeNames :
    (ds.map (f.repackage pkg)).flatMap File.typeNames =
      (ds.flatMap File.typeNames).map (f.renaming pkg) := by
  rw [List.flatMap_map, List.map_flatMap]
  exact List.flatMap_congr fun d hd => h.typeNames hd

theorem isDotted {d : File} (hd : d ∈ ds) : IsDotted (f.repackage pkg d).ownPackage := by
  by_cases heq : d.ownName = f.ownName
  · simpa [File.repackage, File.rename, File.ownPackage, heq] using h.package
  · simpa [File.repackage, File.rename, File.ownPackage, heq] using (h.named d hd).package

theorem renamed {name : String} (hname : name ∈ ds.flatMap File.typeNames) :
    name ≠ "" ∧ f.renaming pkg name ≠ "" ∧ Bare (f.renaming pkg name) := by
  obtain ⟨d, hd, hname⟩ := List.mem_flatMap.mp hname
  have hrelated := File.typeNames_rename (f.renaming pkg) (h.named d hd) (f.repackage pkg d).package
  obtain ⟨name', -, inside, hbare, hne, rfl, -⟩ := exists_related hrelated hname
  rw [h.moves hd inside hname]
  exact ⟨Schema.qualify_ne_empty hne _, Schema.qualify_ne_empty hne _,
    Schema.bare_qualify (Schema.bare_of_isDotted (h.isDotted hd)) hbare⟩

section Load

variable {ρ : String → String} (hρ : IsRenaming ρ)
  (hold : ∀ name ∈ ds.flatMap File.typeNames, ρ name = f.renaming pkg name)

include hρ hold

theorem repackage_eq {d : File} (hd : d ∈ ds) :
    f.repackage pkg d = d.rename ρ (f.repackage pkg d).package := by
  refine File.rename_congr (fun t ht => ?_) _
  by_cases hempty : t = ""
  · have hundeclared : "" ∉ f.typeNames := fun hmem =>
      (h.renamed (List.mem_flatMap.mpr ⟨f, h.mem, hmem⟩)).1 rfl
    subst hempty
    exact (if_neg hundeclared).trans hρ.empty.symm
  · exact (hold _ (h.references d hd t ht hempty)).symm

/-- A loaded file and the file loaded from the repackaged descriptor. -/
structure LoadedBeside (ρ : String → String) (f : File) (pkg : String) (d : File)
    (g g' : Schema.File) : Prop where
  moved : g.Moved ρ g'
  keeps : g.KeepsLocalNames ρ g'
  package : g.package = d.ownPackage
  package' : g'.package = (f.repackage pkg d).ownPackage

theorem load {d : File} (hd : d ∈ ds) :
    Agree (LoadedBeside ρ f pkg d) (Schema.File.load d) (Schema.File.load (f.repackage pkg d)) := by
  have hmem {name : String} (hname : name ∈ d.typeNames) : name ∈ ds.flatMap File.typeNames :=
    List.mem_flatMap.mpr ⟨d, hd, hname⟩
  have hmoves : Moves ρ d.ownPackage (f.repackage pkg d).ownPackage d.typeNames := fun name hname =>
    (hold _ (hmem hname)).trans (h.moves hd name hname)
  have hagree := Schema.File.load_rename hρ hmoves fun p hp => ((h.named d hd).messages p hp).1.1
  rw [← h.repackage_eq hρ hold hd] at hagree
  refine hagree.imp fun g g' hg hg' hmoved => ?_
  have hpackage := (Schema.File.loadedFrom hg).package
  have hpackage' := (Schema.File.loadedFrom hg').package
  have hkeeps : ∀ name ∈ d.typeNames, Identifier.withinPackage g'.package (ρ name) =
      Identifier.withinPackage g.package name := by
    intro name hname
    obtain ⟨-, -, inside, -, -, rfl, -⟩ :=
      exists_related (File.typeNames_rename ρ (h.named d hd) d.package) hname
    rw [hmoves inside hname, hpackage, hpackage', Schema.withinPackage_qualify,
      Schema.withinPackage_qualify]
  refine ⟨hmoved, ⟨fun m hm => hkeeps _ ?_, fun e he => hkeeps _ ?_⟩, hpackage, hpackage'⟩
  · rw [File.typeNames, ← Schema.File.messageNames_eq hg]
    exact List.mem_append_left _ (List.mem_map_of_mem hm)
  · exact List.mem_append_right _ ((Schema.File.mem_enumNames hg).mpr ⟨e, he, rfl⟩)

theorem loadAll :
    Agree (List.Forall₂ fun g g' => g.Moved ρ g' ∧ g.KeepsLocalNames ρ g')
      (ds.mapM Schema.File.load) ((ds.map (f.repackage pkg)).mapM Schema.File.load) := by
  apply Agree.mapM
  rw [List.forall₂_map_right_iff]
  exact List.forall₂_same.mpr fun d hd => (h.load hρ hold hd).imp fun g g' _ _ hg => ⟨hg.moved, hg.keeps⟩

theorem withTypesOf {α : Type} {R : α → α → Prop} {d : File} (hd : d ∈ ds)
    {make : TypeIndex → Schema.File → Except GenerationError α}
    (hmake : ∀ index index' g g', index.Moved ρ index' → LoadedBeside ρ f pkg d g g' →
      Agree R (make index g) (make index' g')) :
    Agree R (withTypesOf ds d make) (withTypesOf (ds.map (f.repackage pkg)) (f.repackage pkg d) make) := by
  refine (h.loadAll hρ hold).bind fun gs gs' hgs => ?_
  refine (TypeIndex.moved_ofFiles hgs).bind fun index index' hindex => ?_
  exact (h.load hρ hold hd).bind fun g g' hg => hmake index index' g g' hindex hg

end Load

end Repackages

end Descriptor

open Descriptor

/-- Nothing shows the package of a file but the first line of its declaration, and its stubs. -/
theorem repackage_texts {ds : List Descriptor.File} {f : Descriptor.File} {pkg : String}
    (h : Repackages ds f pkg) :
    (∀ d ∈ ds, d ≠ f →
      Agree Eq (withTypesOf ds d Declaration.text)
        (withTypesOf (ds.map (f.repackage pkg)) (f.repackage pkg d) Declaration.text) ∧
      ∀ parameters, Agree Eq (withTypesOf ds d fun index => Service.files index parameters)
        (withTypesOf (ds.map (f.repackage pkg)) (f.repackage pkg d) fun index =>
          Service.files index parameters)) ∧
    Agree (fun s s' => ∃ rest, s = "// package: " ++ f.ownPackage ++ "\n" ++ rest ∧
        s' = "// package: " ++ pkg ++ "\n" ++ rest)
      (withTypesOf ds f Declaration.text)
      (withTypesOf (ds.map (f.repackage pkg)) (f.repackage pkg f) Declaration.text) := by
  obtain ⟨ρ, hρ, hold⟩ := exists_isRenaming (h.flatMap_typeNames ▸ h.after) fun _ => h.renamed
  constructor
  · intro d hd hne
    have hpackage : (f.repackage pkg d).ownPackage = d.ownPackage := by
      have hname : d.ownName ≠ f.ownName := fun heq => hne (h.eq_of_ownName hd heq)
      simp [File.repackage, File.rename, File.ownPackage, hname]
    constructor
    · refine h.withTypesOf hρ hold hd fun index index' g g' hindex hg => ?_
      refine (Declaration.text_moved hindex hρ.injective hg.moved).imp fun s s' _ _ hs => ?_
      obtain ⟨rest, rfl, rfl⟩ := hs
      rw [hg.package, hg.package', hpackage]
    · intro parameters
      refine h.withTypesOf hρ hold hd fun index index' g g' hindex hg => ?_
      have heq : g'.package = g.package := by rw [hg.package, hg.package', hpackage]
      exact Service.files_moved hindex hρ.injective hg.moved heq parameters
  · have hpackage : (f.repackage pkg f).ownPackage = pkg := by
      simp [File.repackage, File.rename, File.ownPackage]
    refine h.withTypesOf hρ hold h.mem fun index index' g g' hindex hg => ?_
    have htext := Declaration.text_moved hindex hρ.injective hg.moved
    rwa [hg.package, hg.package', hpackage] at htext

/-- A file that others refer to, one that refers to it, and one with a map. -/
def packagedFiles : List Descriptor.File := answerFile :: callerFile :: mapRequest.files

/-- The types of a file lose their package, and the declaration that refers to them stays. -/
theorem packagedFiles_repackage :
    Repackages packagedFiles answerFile "" ∧
      ∃ s, withTypesOf packagedFiles callerFile Declaration.text = .ok s ∧
        withTypesOf (packagedFiles.map (answerFile.repackage "")) (answerFile.repackage "" callerFile)
          Declaration.text = .ok s := by
  have h : Repackages packagedFiles answerFile "" := {
    mem := List.mem_cons_self
    package := by decide
    named := by decide
    references := by decide
    fileNames := by decide
    before := by decide
    after := by decide }
  have hne : callerFile ≠ answerFile := fun heq =>
    absurd (congrArg File.ownName heq) (by decide)
  have hagree := ((repackage_texts h).1 callerFile (by simp [packagedFiles]) hne).1
  obtain ⟨s, hs⟩ : Succeeds (withTypesOf packagedFiles callerFile Declaration.text) := by decide
  rw [hs] at hagree
  refine ⟨h, s, hs, ?_⟩
  generalize withTypesOf (packagedFiles.map (answerFile.repackage "")) _ _ = result at hagree
  cases hagree with
  | ok heq => rw [heq]

end ProtoStubs
