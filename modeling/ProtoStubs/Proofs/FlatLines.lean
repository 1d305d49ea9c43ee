import ProtoStubs.Proofs.Names
import ProtoStubs.Proofs.Rows

/-!
# Flat lines

Where all names are made of name characters, only the heads and the ends of blocks hold braces, beside two
members that all classes have. No line holds the end of another one.
-/

namespace ProtoStubs.Declaration

open Layout Text

def OneLine : Line → Prop
  | .text _ content => '\n' ∉ content.toList
  | .blank => True
  | .verbatim _ => False

def FlatLine : Line → Prop
  | .text _ content => Flat content
  | .blank => True
  | .verbatim _ => False

theorem FlatLine.oneLine {l : Line} (h : FlatLine l) : OneLine l := by
  cases l with
  | text depth content => exact Flat.not_mem_newline h
  | blank => trivial
  | verbatim content => exact h

theorem FlatLine.indentBy {l : Line} (h : FlatLine l) (n : Nat) : FlatLine (l.indentBy n) := by
  cases l with
  | text depth content => exact h
  | blank => trivial
  | verbatim content => exact h

variable {viewer : String}

def FlatTarget (viewer : String) (t : TypeExpr) : Prop :=
  ∀ e, t.target? = some e → Flat (e.reference viewer)

theorem flat_scalarText (t : ScalarType) : Flat t.text := by
  cases t <;> decide

theorem flat_text {t : TypeExpr} (h : FlatTarget viewer t) : Flat (t.text viewer) := by
  cases t with
  | scalar type => exact flat_scalarText type
  | message target => exact h target rfl
  | enum target =>
    have htarget := h target rfl
    simp +decide only [TypeExpr.text, enumValueType, flat_append, htarget]

theorem flat_objectText {t : TypeExpr} (h : FlatTarget viewer t) : Flat (t.objectText viewer) := by
  have htext := flat_text h
  cases t with
  | scalar type => exact htext
  | message target => exact flat_append.mpr ⟨htext, by decide⟩
  | enum target => exact htext

theorem flat_mapAccessors {stem : String} {key value : TypeExpr} (hstem : Flat stem)
    (hkey : FlatTarget viewer key) (hvalue : FlatTarget viewer value) :
    ∀ a ∈ mapAccessors stem key value, Flat (a.render viewer) := by
  have hkey := flat_text hkey
  have hvalue := flat_text hvalue
  simp +decide [mapAccessors, Phrase.render, Piece.render, flat_append, flat_join, hstem, hkey,
    hvalue]

theorem flat_repeatedAccessors {stem : String} {t : TypeExpr} (hstem : Flat stem)
    (ht : FlatTarget viewer t) : ∀ a ∈ repeatedAccessors stem t, Flat (a.render viewer) := by
  have htext := flat_text ht
  unfold repeatedAccessors
  cases t.isMessage <;> cases t.isBytes <;>
    simp +decide [Phrase.render, Piece.render, flat_append, flat_join, hstem, htext]

theorem flat_singularAccessors {stem : String} {t : TypeExpr} (hstem : Flat stem)
    (ht : FlatTarget viewer t) : ∀ a ∈ singularAccessors stem t, Flat (a.render viewer) := by
  have htext := flat_text ht
  unfold singularAccessors
  cases t.isMessage <;> cases t.isBytes <;>
    simp +decide [Phrase.render, Piece.render, flat_append, flat_join, hstem, htext]

theorem flat_presenceAccessors {stem : String} (hstem : Flat stem) :
    ∀ a ∈ presenceAccessors stem, Flat (a.render viewer) := by
  simp +decide [presenceAccessors, Phrase.render, Piece.render, flat_append, flat_join, hstem]

structure Property.Flat (viewer : String) (p : Property) : Prop where
  name : NameChars p.field.name
  targets : ∀ e ∈ p.type.targets, Text.Flat (e.reference viewer)

theorem Property.Flat.types {p : Property} (h : p.Flat viewer) :
    match p.type with
    | .plain type => FlatTarget viewer type
    | .map key value => FlatTarget viewer key ∧ FlatTarget viewer value := by
  have htargets := h.targets
  cases ht : p.type with
  | plain type =>
    rw [ht] at htargets
    exact PropertyType.forall_targets_plain.mp htargets
  | map key value =>
    rw [ht] at htargets
    exact PropertyType.forall_targets_map.mp htargets

theorem Property.Flat.accessors {p : Property} (h : p.Flat viewer) (dialect : Schema.Dialect) :
    ∀ a ∈ p.accessors dialect, Text.Flat (a.render viewer) := by
  have hstem : Text.Flat p.upperStem := (Identifier.nameChars_accessorStem h.name).upperFirst.flat
  have htypes := h.types
  unfold Property.accessors
  cases ht : p.type with
  | map key value =>
    rw [ht] at htypes
    exact flat_mapAccessors hstem htypes.1 htypes.2
  | plain type =>
    rw [ht] at htypes
    simp only
    split
    · exact flat_repeatedAccessors hstem htypes
    · rw [List.forall_mem_append]
      refine ⟨?_, flat_singularAccessors hstem htypes⟩
      split
      · exact flat_presenceAccessors hstem
      · simp

theorem Property.Flat.objectEntry {p : Property} (h : p.Flat viewer) (dialect : Schema.Dialect) :
    Text.Flat ((p.objectEntry dialect).render viewer) := by
  have hstem : Text.Flat p.stem := (Identifier.nameChars_accessorStem h.name).flat
  have hescaped : Text.Flat (Identifier.objectKey p.stem) :=
    (Identifier.nameChars_objectKey (Identifier.nameChars_accessorStem h.name)).flat
  have htypes := h.types
  unfold Property.objectEntry Property.objectKey Property.objectType
  cases ht : p.type with
  | map key value =>
    rw [ht] at htypes
    have hkey := flat_objectText htypes.1
    have hvalue := flat_objectText htypes.2
    simp +decide [Phrase.render, Piece.render, flat_append, hstem, hkey, hvalue]
  | plain type =>
    rw [ht] at htypes
    have htext := flat_objectText htypes
    simp only
    split
    · simp +decide [Phrase.render, Piece.render, flat_append, hstem, htext]
    · split <;> simp +decide [Phrase.render, Piece.render, flat_append, hescaped, htext]

theorem Extension.flat_constant {x : Extension} (hname : NameChars x.field.name)
    (ht : FlatTarget viewer x.type) : Text.Flat (x.constant.render viewer) := by
  have hstem := (Identifier.nameChars_camelCase hname).flat
  have htext := flat_text ht
  unfold Extension.constant
  cases x.field.isRepeated <;>
    simp +decide [Phrase.render, Piece.render, flat_append, hstem, htext]

section Blocks

theorem flat_caseAccessor {className : String} {o : Oneof} (hclass : NameChars className)
    (ho : NameChars o.name) : Flat (o.caseAccessor className) := by
  have hstem := (Identifier.nameChars_oneofStem ho).flat
  simp +decide [Oneof.caseAccessor, flat_append, hstem, hclass.flat]

def enumValueLines (e : Schema.Enum) : List Line :=
  e.values.map fun v => line (Text.upper v.name ++ ": " ++ toString v.number ++ ";")

def oneofCaseLines (o : Oneof) : List Line :=
  line (Text.upper o.name ++ "_NOT_SET = 0,") ::
    o.members.map fun f => line (Text.upper f.name ++ " = " ++ toString f.number ++ ",")

theorem flat_enumValueLines {e : Schema.Enum} (h : ∀ v ∈ e.values, NameChars v.name) :
    ∀ l ∈ enumValueLines e, FlatLine l := by
  intro l hl
  obtain ⟨v, hv, rfl⟩ := List.mem_map.mp hl
  have hname := (h v hv).upper.flat
  simp +decide [FlatLine, line, flat_append, hname, -Int.toString_eq_repr, flat_toString_int]

theorem flat_oneofCaseLines {o : Oneof} (ho : NameChars o.name)
    (h : ∀ f ∈ o.members, NameChars f.name) : ∀ l ∈ oneofCaseLines o, FlatLine l := by
  rw [oneofCaseLines, List.forall_mem_cons]
  constructor
  · exact flat_append.mpr ⟨ho.upper.flat, by decide⟩
  · intro l hl
    obtain ⟨f, hf, rfl⟩ := List.mem_map.mp hl
    have hname := (h f hf).upper.flat
    simp +decide [FlatLine, line, flat_append, hname, -Int.toString_eq_repr, flat_toString_int]

end Blocks

end ProtoStubs.Declaration
