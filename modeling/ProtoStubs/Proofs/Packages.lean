import ProtoStubs.Proofs.MovedStubs
import ProtoStubs.Text.Split

/-!
# The package of a file

In another package a file declares the same types: the full name of each is its name inside the file behind
the package. References are renamed one by one, so renamings that do not differ on them give the same file.
-/

namespace ProtoStubs

namespace Text

/-- Names between dots. -/
def IsSegment (s : String) : Prop := s ≠ "" ∧ '.' ∉ s.toList

/-- Empty, or segments with dots between them. -/
def IsDotted (s : String) : Prop := s = "" ∨ [] ∉ splitChars '.' s.toList

instance (s : String) : Decidable (IsSegment s) := inferInstanceAs (Decidable (_ ∧ _))

instance (s : String) : Decidable (IsDotted s) := inferInstanceAs (Decidable (_ ∨ _))

end Text

open Text (IsSegment IsDotted)

namespace Schema

theorem bare_empty : Bare "" := by
  simp [Bare]

theorem bare_of_isSegment {name : String} (h : IsSegment name) : Bare name :=
  fun hdot => h.2 (List.mem_of_head? hdot)

theorem bare_append {name : String} (h : Bare name) (hname : name ≠ "") (rest : String) :
    Bare (name ++ rest) := by
  have hne : name.toList ≠ [] := by simpa using hname
  rw [Bare, String.toList_append, List.head?_append_of_ne_nil _ hne]
  exact h

theorem bare_of_isDotted {pkg : String} (h : IsDotted pkg) : Bare pkg := by
  rcases h with rfl | h
  · exact bare_empty
  · intro hdot
    obtain ⟨rest, hrest⟩ := List.head?_eq_some_iff.mp hdot
    rw [hrest, Text.splitChars, if_pos rfl] at h
    exact h List.mem_cons_self

theorem bare_qualify {scope name : String} (hscope : Bare scope) (hname : Bare name) :
    Bare (qualify scope name) := by
  unfold qualify
  split
  · exact hname
  · rename_i hne
    exact bare_append (bare_append hscope hne _) (by simp [hne]) _

theorem withinPackage_qualify (pkg name : String) :
    Identifier.withinPackage pkg (qualify pkg name) = name := by
  unfold Identifier.withinPackage qualify
  by_cases hpkg : pkg = ""
  · simp [hpkg]
  · simp [hpkg, String.toList_append, List.drop_append]

end Schema

namespace Descriptor

open Schema (Bare inPackage Moves)

theorem forall₂_flatMap_map {α β γ δ : Type} {R : γ → δ → Prop} {xs : List α} {k : α → β}
    {f : α → List γ} {g : β → List δ} (h : ∀ x ∈ xs, List.Forall₂ R (f x) (g (k x))) :
    List.Forall₂ R (xs.flatMap f) ((xs.map k).flatMap g) := by
  induction xs with
  | nil => exact .nil
  | cons x xs ih =>
    rw [List.forall_mem_cons] at h
    exact List.rel_append h.1 (ih h.2)

def Enum.ownName (d : Enum) : String := d.name.getD ""

def Message.NamesTypes (m : Message) : Prop := IsSegment m.ownName ∧ ∀ e ∈ m.enums, IsSegment e.ownName

/-- One scope in two packages. -/
def SamePlace (pkg pkg' scope scope' : String) : Prop :=
  ∃ s, Bare s ∧ scope = inPackage pkg s ∧ scope' = inPackage pkg' s

theorem samePlace_top (pkg pkg' : String) : SamePlace pkg pkg' pkg pkg' :=
  ⟨"", Schema.bare_empty, (Schema.inPackage_empty pkg).symm, (Schema.inPackage_empty pkg').symm⟩

theorem SamePlace.qualify {pkg pkg' scope scope' name : String}
    (h : SamePlace pkg pkg' scope scope') (hname : IsSegment name) :
    SamePlace pkg pkg' (Schema.qualify scope name) (Schema.qualify scope' name) := by
  obtain ⟨s, hs, rfl, rfl⟩ := h
  exact ⟨Schema.qualify s name, Schema.bare_qualify hs (Schema.bare_of_isSegment hname),
    (Schema.inPackage_qualify hname.1 pkg s).symm, (Schema.inPackage_qualify hname.1 pkg' s).symm⟩

instance (m : Message) : Decidable m.NamesTypes := inferInstanceAs (Decidable (_ ∧ _))

/-- A message and the same message after a renaming, at the same place of the one and the other package. -/
structure Message.Beside (ρ : String → String) (pkg pkg' : String) (x y : String × Message) :
    Prop where
  place : SamePlace pkg pkg' x.1 y.1
  message : y.2 = x.2.rename ρ
  named : x.2.NamesTypes

theorem Message.withNested_beside (ρ : String → String) {pkg pkg' : String} {m : Message}
    {scope scope' : String} (hplace : SamePlace pkg pkg' scope scope')
    (hnames : ∀ p ∈ m.withNested scope, p.2.NamesTypes) :
    List.Forall₂ (Message.Beside ρ pkg pkg') (m.withNested scope)
      ((m.rename ρ).withNested scope') := by
  induction m using Message.induct generalizing scope scope' with
  | step m ih =>
    have hnamed : m.NamesTypes := hnames _ (m.mem_withNested_self _)
    have hnested : (m.rename ρ).nested = m.nested.map (Message.rename ρ) := by rw [rename_eq]
    rw [withNested_eq, withNested_eq, hnested, fullName_rename]
    refine .cons ⟨hplace, rfl, hnamed⟩ (forall₂_flatMap_map fun n hn => ?_)
    exact ih n hn (hplace.qualify hnamed.1) fun p hp => hnames p (withNested_subset hn hp)

structure File.NamesTypes (d : File) : Prop where
  package : IsDotted d.ownPackage
  messages : ∀ p ∈ d.allMessages, p.2.NamesTypes
  enums : ∀ e ∈ d.enums, IsSegment e.ownName

instance (d : File) : Decidable d.NamesTypes :=
  decidable_of_iff (IsDotted d.ownPackage ∧ (∀ p ∈ d.allMessages, p.2.NamesTypes) ∧
      ∀ e ∈ d.enums, IsSegment e.ownName)
    ⟨fun h => ⟨h.1, h.2.1, h.2.2⟩, fun h => ⟨h.package, h.messages, h.enums⟩⟩

/-- The full names of one type in two packages. -/
def SameInside (pkg pkg' name name' : String) : Prop :=
  ∃ inside, Bare inside ∧ inside ≠ "" ∧ name = Schema.qualify pkg inside ∧
    name' = Schema.qualify pkg' inside

theorem SamePlace.sameInside {pkg pkg' scope scope' name : String}
    (h : SamePlace pkg pkg' scope scope') (hname : IsSegment name) :
    SameInside pkg pkg' (Schema.qualify scope name) (Schema.qualify scope' name) := by
  obtain ⟨s, hs, rfl, rfl⟩ := h
  exact ⟨Schema.qualify s name, Schema.bare_qualify hs (Schema.bare_of_isSegment hname),
    Schema.qualify_ne_empty hname.1 s, Schema.qualify_inPackage pkg s name,
    Schema.qualify_inPackage pkg' s name⟩

theorem sameInside_enums {pkg pkg' scope scope' : String} (h : SamePlace pkg pkg' scope scope')
    {enums : List Enum} (hnames : ∀ e ∈ enums, IsSegment e.ownName) :
    List.Forall₂ (SameInside pkg pkg') (enums.map (Enum.fullName scope))
      (enums.map (Enum.fullName scope')) := by
  rw [List.forall₂_map_left_iff, List.forall₂_map_right_iff]
  exact List.forall₂_same.mpr fun e he => h.sameInside (hnames e he)

theorem File.typeNames_rename (ρ : String → String) {d : File} (hd : d.NamesTypes)
    (package : Option String) :
    List.Forall₂ (SameInside d.ownPackage (package.getD "")) d.typeNames
      (d.rename ρ package).typeNames := by
  have hall : List.Forall₂ (Message.Beside ρ d.ownPackage (package.getD "")) d.allMessages
      (d.rename ρ package).allMessages := by
    have hnames := hd.messages
    rw [File.allMessages, allNested_eq_flatMap] at hnames ⊢
    rw [File.allMessages, allNested_eq_flatMap, File.rename, renameMessages_eq_map]
    exact forall₂_flatMap_map fun m hm => Message.withNested_beside ρ (samePlace_top _ _)
      fun p hp => hnames p (List.mem_flatMap.mpr ⟨m, hm, hp⟩)
  refine List.rel_append ?_ (List.rel_append ?_ (sameInside_enums (samePlace_top _ _) hd.enums))
  · rw [messageNames, messageNames, List.forall₂_map_left_iff, List.forall₂_map_right_iff]
    refine hall.imp fun x y h => ?_
    rw [h.message, Message.fullName_rename]
    exact h.place.sameInside h.named.1
  · refine List.rel_flatMap hall fun x y h => ?_
    have henums : (x.2.rename ρ).enums = x.2.enums := by rw [Message.rename_eq]
    rw [h.message, henums, Message.fullName_rename]
    exact sameInside_enums (h.place.qualify h.named.1) h.named.2

/-! ## References -/

/-- What the fields, extensions and methods of a file refer to, as it is written. -/
def File.references (d : File) : List String :=
  (d.allMessages.flatMap fun p => (p.2.fields ++ p.2.extensions).flatMap (·.typeName.toList)) ++
    d.extensions.flatMap (·.typeName.toList) ++
    d.services.flatMap fun s => s.methods.flatMap fun m => m.inputType.toList ++ m.outputType.toList

section Congr

variable {ρ ρ' : String → String}

/-- The renamings do not differ on these references. -/
def AgreeOn (ρ ρ' : String → String) (references : List String) : Prop :=
  ∀ t ∈ references, ρ (Schema.bareTypeName t) = ρ' (Schema.bareTypeName t)

theorem map_renameReference_congr {o : Option String} (h : AgreeOn ρ ρ' o.toList) :
    o.map (renameReference ρ) = o.map (renameReference ρ') := by
  cases o with
  | none => rfl
  | some t => simp [renameReference, h t (by simp)]

theorem Field.map_rename_congr {ds : List Field} (h : AgreeOn ρ ρ' (ds.flatMap (·.typeName.toList))) :
    ds.map (Field.rename ρ) = ds.map (Field.rename ρ') := by
  refine List.map_congr_left fun d hd => ?_
  have hd : AgreeOn ρ ρ' d.typeName.toList := fun t ht => h t (List.mem_flatMap.mpr ⟨d, hd, ht⟩)
  rw [Field.rename, Field.rename, map_renameReference_congr hd]

theorem Message.rename_congr {scope : String} {m : Message}
    (h : ∀ p ∈ m.withNested scope,
      AgreeOn ρ ρ' ((p.2.fields ++ p.2.extensions).flatMap (·.typeName.toList))) :
    m.rename ρ = m.rename ρ' := by
  induction m using Message.induct generalizing scope with
  | step m ih =>
    have hown := h _ (m.mem_withNested_self _)
    rw [List.flatMap_append] at hown
    have hnested : m.nested.map (Message.rename ρ) = m.nested.map (Message.rename ρ') :=
      List.map_congr_left fun n hn => ih n hn fun p hp => h p (withNested_subset hn hp)
    rw [rename_eq, rename_eq, hnested,
      Field.map_rename_congr fun t ht => hown t (List.mem_append_left _ ht),
      Field.map_rename_congr fun t ht => hown t (List.mem_append_right _ ht)]

theorem Method.rename_congr {d : Method}
    (h : AgreeOn ρ ρ' (d.inputType.toList ++ d.outputType.toList)) : d.rename ρ = d.rename ρ' := by
  rw [Method.rename, Method.rename,
    map_renameReference_congr fun t ht => h t (List.mem_append_left _ ht),
    map_renameReference_congr fun t ht => h t (List.mem_append_right _ ht)]

theorem File.rename_congr {d : File} (h : AgreeOn ρ ρ' d.references) (package : Option String) :
    d.rename ρ package = d.rename ρ' package := by
  have hmessages : d.messages.map (Message.rename ρ) = d.messages.map (Message.rename ρ') := by
    refine List.map_congr_left fun m hm => ?_
    refine Message.rename_congr fun p (hp : p ∈ m.withNested d.ownPackage) t ht => h t ?_
    refine List.mem_append_left _ (List.mem_append_left _ (List.mem_flatMap.mpr ⟨p, ?_, ht⟩))
    rw [allMessages, allNested_eq_flatMap]
    exact List.mem_flatMap.mpr ⟨m, hm, hp⟩
  have hservices : d.services.map (Service.rename ρ) = d.services.map (Service.rename ρ') := by
    refine List.map_congr_left fun s hs => congrArg (Service.mk s.name) ?_
    refine List.map_congr_left fun m hm => Method.rename_congr fun t ht => h t ?_
    exact List.mem_append_right _ (List.mem_flatMap.mpr ⟨s, hs, List.mem_flatMap.mpr ⟨m, hm, ht⟩⟩)
  rw [File.rename, File.rename, renameMessages_eq_map, renameMessages_eq_map, hmessages, hservices,
    Field.map_rename_congr fun t ht =>
      h t (List.mem_append_left _ (List.mem_append_right _ ht))]

end Congr

end Descriptor

end ProtoStubs
