import ProtoStubs.Proofs.Declared

/-!
# Texts without a line break

No change of case makes a line break, whatever the script of the letters. So a name without one gives
stems, keys and references without one, and a declaration is printed line by line.
-/

namespace ProtoStubs

namespace Text

def Unbroken (s : String) : Prop := '\n' ∉ s.toList

instance (s : String) : Decidable (Unbroken s) := inferInstanceAs (Decidable (¬ _))

theorem Flat.unbroken {s : String} (h : Flat s) : Unbroken s := h.not_mem_newline

theorem unbroken_ofList {cs : List Char} : Unbroken (String.ofList cs) ↔ '\n' ∉ cs := by
  rw [Unbroken, String.toList_ofList]

theorem unbroken_append {s t : String} : Unbroken (s ++ t) ↔ Unbroken s ∧ Unbroken t := by
  simp [Unbroken]

theorem ofNat_ne_newline {n : Nat} (h : n ≠ 10) : Char.ofNat n ≠ '\n' := by
  intro heq
  have hcode := congrArg Char.toNat heq
  by_cases hvalid : n.isValidChar
  · rw [Char.ofNat, dif_pos hvalid] at hcode
    exact h hcode
  · rw [Char.ofNat, dif_neg hvalid] at hcode
    cases hcode

theorem forall_ascii {P : Char → Prop} (h : ∀ n < 128, P (Char.ofNat n)) {c : Char} (hc : c.toNat < 128) :
    P c := by
  rw [← Char.ofNat_toNat c]
  exact h _ hc

theorem mapByRuns_ne_newline {runs : List CaseRun} (h : ∀ r ∈ runs, 10 < (r.first : Int) + r.offset)
    {c : Char} (hc : c ≠ '\n') : mapByRuns runs c ≠ '\n' := by
  unfold mapByRuns
  split
  case h_1 r hr =>
    have hcovers := List.find?_some hr
    simp only [CaseRun.covers, Bool.and_eq_true, decide_eq_true_iff] at hcovers
    have hfirst := hcovers.1.1
    have hoffset := h r (List.mem_of_find?_eq_some hr)
    exact ofNat_ne_newline (by omega)
  case h_2 => exact hc

theorem upperChar_unbroken {c : Char} (hc : c ≠ '\n') : '\n' ∉ upperChar c := by
  have hexpansions : ∀ p ∈ upperExpansions, 10 ∉ p.2 := by decide +kernel
  have hruns : ∀ r ∈ upperRuns, 10 < (r.first : Int) + r.offset := by decide +kernel
  unfold upperChar
  split_ifs with hascii
  · have hupper := forall_ascii (P := fun c => c.toUpper = '\n' → c = '\n') (by decide) hascii
    rw [List.mem_singleton]
    exact fun h => hc (hupper h.symm)
  · split
    case h_1 codes hcodes =>
      obtain ⟨before, after, hlookup, -⟩ := List.lookup_eq_some_iff.mp hcodes
      have hmem : (c.toNat, codes) ∈ upperExpansions := by
        rw [hlookup]
        exact List.mem_append_right _ List.mem_cons_self
      rw [List.mem_map]
      rintro ⟨n, hn, hnewline⟩
      exact ofNat_ne_newline (fun h => hexpansions _ hmem (h ▸ hn)) hnewline
    case h_2 =>
      rw [List.mem_singleton]
      exact (mapByRuns_ne_newline hruns hc).symm

theorem lowerChar_unbroken {c : Char} (hc : c ≠ '\n') : '\n' ∉ lowerChar c := by
  have hruns : ∀ r ∈ lowerRuns, 10 < (r.first : Int) + r.offset := by decide +kernel
  unfold lowerChar
  split_ifs with hascii
  · have hlower := forall_ascii (P := fun c => c.toLower = '\n' → c = '\n') (by decide) hascii
    rw [List.mem_singleton]
    exact fun h => hc (hlower h.symm)
  · decide
  · rw [List.mem_singleton]
    exact (mapByRuns_ne_newline hruns hc).symm

theorem Unbroken.upper {s : String} (h : Unbroken s) : Unbroken (upper s) := by
  rw [Text.upper, unbroken_ofList, List.mem_flatMap]
  rintro ⟨c, hc, hnewline⟩
  exact upperChar_unbroken (fun heq => h (heq ▸ hc)) hnewline

theorem lowerBetween_unbroken {before after : List Char} {c : Char} (hc : c ≠ '\n') :
    '\n' ∉ lowerBetween before c after := by
  unfold lowerBetween
  split_ifs
  · decide
  · exact lowerChar_unbroken hc

theorem Unbroken.lower {s : String} (h : Unbroken s) : Unbroken (lower s) := by
  have hafter : ∀ before cs : List Char, '\n' ∉ cs → '\n' ∉ lowerAfter before cs := by
    intro before cs
    induction cs generalizing before with
    | nil => exact fun _ => List.not_mem_nil
    | cons c cs ih =>
      intro hcs
      rw [List.mem_cons, not_or] at hcs
      rw [lowerAfter, List.mem_append, not_or]
      exact ⟨lowerBetween_unbroken (Ne.symm hcs.1), ih _ hcs.2⟩
  rw [Text.lower, unbroken_ofList]
  exact hafter [] s.toList h

theorem Unbroken.upperFirst {s : String} (h : Unbroken s) : Unbroken (upperFirst s) := by
  unfold Text.upperFirst
  split
  · decide
  · rename_i c rest hs
    rw [Unbroken, hs, List.mem_cons, not_or] at h
    rw [unbroken_ofList, List.mem_append, not_or]
    exact ⟨upperChar_unbroken (Ne.symm h.1), h.2⟩

theorem Unbroken.dropLead {lead s : String} (h : Unbroken s) : Unbroken (dropLead lead s) := by
  rw [Text.dropLead, unbroken_ofList, dropLeadChars]
  split
  · exact fun hmem => h (List.mem_of_mem_drop hmem)
  · exact h

theorem Unbroken.camelCase {s : String} (h : Unbroken s) : Unbroken (Identifier.camelCase s) := by
  have hchars : ∀ cs : List Char, '\n' ∉ cs → '\n' ∉ Identifier.camelChars cs := by
    intro cs
    fun_induction Identifier.camelChars cs with
    | case1 c rest hword ih =>
      intro hcs
      simp only [List.mem_cons, not_or] at hcs
      rw [List.mem_append, not_or]
      exact ⟨upperChar_unbroken (Ne.symm hcs.2.1), ih hcs.2.2⟩
    | case2 c rest hword ih =>
      intro hcs
      rw [List.mem_cons, not_or] at hcs ⊢
      exact ⟨hcs.1, ih hcs.2⟩
    | case3 c rest hlow ih =>
      intro hcs
      rw [List.mem_cons, not_or] at hcs ⊢
      exact ⟨hcs.1, ih hcs.2⟩
    | case4 => exact id
  rw [Identifier.camelCase, unbroken_ofList]
  exact hchars s.toList h

theorem Unbroken.oneofStem {s : String} (h : Unbroken s) : Unbroken (Identifier.oneofStem s) :=
  h.lower.camelCase.upperFirst

theorem Unbroken.accessorStem {s : String} (h : Unbroken s) : Unbroken (Identifier.accessorStem s) :=
  h.lower.dropLead.camelCase

theorem Unbroken.objectKey {s : String} (h : Unbroken s) : Unbroken (Identifier.objectKey s) := by
  unfold Identifier.objectKey
  split
  · exact unbroken_append.mpr ⟨by decide, h⟩
  · exact h

theorem Unbroken.namespaceName {path : String} (h : Unbroken path) :
    Unbroken (SourcePath.namespaceName path) := by
  rw [SourcePath.namespaceName, unbroken_append, unbroken_ofList, List.mem_map]
  refine ⟨?_, by decide⟩
  rintro ⟨c, hc, hnewline⟩
  have hstem : c ∈ path.toList := by
    rw [SourcePath.stem, dropTail, String.toList_ofList, dropTailChars] at hc
    split at hc
    · exact List.mem_of_mem_take hc
    · exact hc
  unfold SourcePath.flattenChar at hnewline
  split at hnewline
  · cases hnewline
  · exact h (hnewline ▸ hstem)

end Text

open Text

structure Export.Unbroken (e : Export) : Prop where
  fullName : Text.Unbroken e.fullName
  fileName : Text.Unbroken e.fileName

instance (e : Export) : Decidable e.Unbroken :=
  decidable_of_iff (Text.Unbroken e.fullName ∧ Text.Unbroken e.fileName)
    ⟨fun h => ⟨h.1, h.2⟩, fun h => ⟨h.fullName, h.fileName⟩⟩

theorem Export.Unbroken.reference {e : Export} (h : e.Unbroken) (viewer : String) :
    Text.Unbroken (e.reference viewer) := by
  have hlocal : Text.Unbroken e.localName := fun hmem => h.fullName (Identifier.mem_withinPackage hmem)
  unfold Export.reference Export.namespacedName
  split_ifs
  · exact hlocal
  · exact unbroken_append.mpr ⟨unbroken_append.mpr ⟨h.fileName.namespaceName, by decide⟩, hlocal⟩

namespace Schema

structure Enum.Unbroken (e : Enum) : Prop where
  name : Text.Unbroken e.name
  values : ∀ v ∈ e.values, Text.Unbroken v.name

instance (e : Enum) : Decidable e.Unbroken :=
  decidable_of_iff (Text.Unbroken e.name ∧ ∀ v ∈ e.values, Text.Unbroken v.name)
    ⟨fun h => ⟨h.1, h.2⟩, fun h => ⟨h.name, h.values⟩⟩

structure Message.Unbroken (m : Message) : Prop where
  name : Text.Unbroken m.name
  fields : ∀ f ∈ m.fields, Text.Unbroken f.name
  enums : ∀ e ∈ m.enums, e.Unbroken
  oneofs : ∀ o ∈ m.oneofs, Text.Unbroken o
  extensions : ∀ f ∈ m.extensions, Text.Unbroken f.name

instance (m : Message) : Decidable m.Unbroken :=
  decidable_of_iff (Text.Unbroken m.name ∧ (∀ f ∈ m.fields, Text.Unbroken f.name) ∧
      (∀ e ∈ m.enums, e.Unbroken) ∧ (∀ o ∈ m.oneofs, Text.Unbroken o) ∧
      ∀ f ∈ m.extensions, Text.Unbroken f.name)
    ⟨fun h => ⟨h.1, h.2.1, h.2.2.1, h.2.2.2.1, h.2.2.2.2⟩,
      fun h => ⟨h.name, h.fields, h.enums, h.oneofs, h.extensions⟩⟩

end Schema

namespace Declaration

open Layout

/-- A line of one's own that is blank or has something on it. -/
def Solid : Line → Prop
  | .text _ content => content ≠ "" ∧ Unbroken content
  | .blank => True
  | .verbatim _ => False

variable {viewer : String}

def UnbrokenTarget (viewer : String) (t : TypeExpr) : Prop :=
  ∀ e, t.target? = some e → Unbroken (e.reference viewer)

theorem unbroken_text {t : TypeExpr} (h : UnbrokenTarget viewer t) : Unbroken (t.text viewer) := by
  cases t with
  | scalar type => exact (flat_scalarText type).unbroken
  | message target => exact h target rfl
  | enum target =>
    have htarget := h target rfl
    simp +decide only [TypeExpr.text, enumValueType, unbroken_append, htarget]

theorem unbroken_objectText {t : TypeExpr} (h : UnbrokenTarget viewer t) :
    Unbroken (t.objectText viewer) := by
  have htext := unbroken_text h
  cases t with
  | scalar type => exact htext
  | message target => exact unbroken_append.mpr ⟨htext, by decide⟩
  | enum target => exact htext

theorem solid_mapAccessors {stem : String} {key value : TypeExpr} (hstem : Unbroken stem)
    (hkey : UnbrokenTarget viewer key) (hvalue : UnbrokenTarget viewer value) :
    ∀ a ∈ mapAccessors stem key value, Solid (line (a.render viewer)) := by
  have hkey := unbroken_text hkey
  have hvalue := unbroken_text hvalue
  simp +decide [mapAccessors, Solid, line, Phrase.render, Piece.render, unbroken_append, hstem, hkey,
    hvalue]

theorem solid_repeatedAccessors {stem : String} {t : TypeExpr} (hstem : Unbroken stem)
    (ht : UnbrokenTarget viewer t) :
    ∀ a ∈ repeatedAccessors stem t, Solid (line (a.render viewer)) := by
  have htext := unbroken_text ht
  unfold repeatedAccessors
  cases t.isMessage <;> cases t.isBytes <;>
    simp +decide [Solid, line, Phrase.render, Piece.render, unbroken_append, hstem, htext]

theorem solid_singularAccessors {stem : String} {t : TypeExpr} (hstem : Unbroken stem)
    (ht : UnbrokenTarget viewer t) :
    ∀ a ∈ singularAccessors stem t, Solid (line (a.render viewer)) := by
  have htext := unbroken_text ht
  unfold singularAccessors
  cases t.isMessage <;> cases t.isBytes <;>
    simp +decide [Solid, line, Phrase.render, Piece.render, unbroken_append, hstem, htext]

theorem solid_presenceAccessors {stem : String} (hstem : Unbroken stem) :
    ∀ a ∈ presenceAccessors stem, Solid (line (a.render viewer)) := by
  simp +decide [presenceAccessors, Solid, line, Phrase.render, Piece.render, unbroken_append, hstem]

structure Property.Unbroken (viewer : String) (p : Property) : Prop where
  name : Text.Unbroken p.field.name
  targets : ∀ e ∈ p.type.targets, Text.Unbroken (e.reference viewer)

theorem Property.Unbroken.types {p : Property} (h : p.Unbroken viewer) :
    match p.type with
    | .plain type => UnbrokenTarget viewer type
    | .map key value => UnbrokenTarget viewer key ∧ UnbrokenTarget viewer value := by
  have htargets := h.targets
  cases ht : p.type with
  | plain type =>
    rw [ht] at htargets
    exact PropertyType.forall_targets_plain.mp htargets
  | map key value =>
    rw [ht] at htargets
    exact PropertyType.forall_targets_map.mp htargets

theorem Property.Unbroken.solid_accessors {p : Property} (h : p.Unbroken viewer)
    (dialect : Schema.Dialect) : ∀ a ∈ p.accessors dialect, Solid (line (a.render viewer)) := by
  have hstem : Text.Unbroken p.upperStem := h.name.accessorStem.upperFirst
  have htypes := h.types
  unfold Property.accessors
  cases ht : p.type with
  | map key value =>
    rw [ht] at htypes
    exact solid_mapAccessors hstem htypes.1 htypes.2
  | plain type =>
    rw [ht] at htypes
    simp only
    split
    · exact solid_repeatedAccessors hstem htypes
    · rw [List.forall_mem_append]
      refine ⟨?_, solid_singularAccessors hstem htypes⟩
      split
      · exact solid_presenceAccessors hstem
      · simp

theorem Property.Unbroken.solid_objectEntry {p : Property} (h : p.Unbroken viewer)
    (dialect : Schema.Dialect) : Solid (line ((p.objectEntry dialect).render viewer)) := by
  have hstem : Text.Unbroken p.stem := h.name.accessorStem
  have hescaped : Text.Unbroken (Identifier.objectKey p.stem) := hstem.objectKey
  have htypes := h.types
  unfold Property.objectEntry Property.objectKey Property.objectType
  cases ht : p.type with
  | map key value =>
    rw [ht] at htypes
    have hkey := unbroken_objectText htypes.1
    have hvalue := unbroken_objectText htypes.2
    simp +decide [Solid, line, Phrase.render, Piece.render, unbroken_append, hstem, hkey, hvalue]
  | plain type =>
    rw [ht] at htypes
    have htext := unbroken_objectText htypes
    simp only
    split
    · simp +decide [Solid, line, Phrase.render, Piece.render, unbroken_append, hstem, htext]
    · split <;> simp +decide [Solid, line, Phrase.render, Piece.render, unbroken_append, hescaped, htext]

theorem Extension.solid_lines {x : Extension} (hname : Unbroken x.field.name)
    (ht : UnbrokenTarget viewer x.type) : ∀ l ∈ x.lines viewer, Solid l := by
  have hstem := hname.camelCase
  have htext := unbroken_text ht
  unfold Extension.lines Extension.constant
  cases x.field.isRepeated <;>
    simp +decide [Solid, line, Phrase.render, Piece.render, unbroken_append, hstem, htext]

theorem Solid.oneLine {l : Line} (h : Solid l) : OneLine l := by
  cases l with
  | text depth content => exact h.2
  | blank => trivial
  | verbatim content => exact h

theorem Solid.indentBy {l : Line} (h : Solid l) (n : Nat) : Solid (l.indentBy n) := by
  cases l with
  | text depth content => exact h
  | blank => trivial
  | verbatim content => exact h

theorem solid_indentBy {ls : List Line} (h : ∀ l ∈ ls, Solid l) (n : Nat) :
    ∀ l ∈ Layout.indentBy n ls, Solid l := by
  intro l hl
  obtain ⟨l, hmem, rfl⟩ := List.mem_map.mp hl
  exact (h l hmem).indentBy n

theorem solid_braced {head tail : String} {body : List Line} (hhead : Unbroken head) (htail : Unbroken tail)
    (hbody : ∀ l ∈ body, Solid l) : ∀ l ∈ braced head body tail, Solid l := by
  have hends : Solid (line (head ++ openBrace)) ∧ Solid (line (closeBrace ++ tail)) := by
    simp +decide [Solid, line, unbroken_append, openBrace, closeBrace, hhead, htail]
  rw [braced, List.cons_append, List.forall_mem_cons, List.forall_mem_append, List.forall_mem_singleton]
  exact ⟨hends.1, solid_indentBy hbody 1, hends.2⟩

theorem solid_enumLines {e : Schema.Enum} (h : e.Unbroken) : ∀ l ∈ enumLines e, Solid l := by
  have hhead : Unbroken ("export interface " ++ e.name ++ "Map ") := by
    simp +decide [unbroken_append, h.name]
  have hconst : Solid (line ("export const " ++ e.name ++ ": " ++ e.name ++ "Map;")) := by
    simp +decide [Solid, line, unbroken_append, h.name]
  have hvalues : ∀ l ∈ enumValueLines e, Solid l := by
    intro l hl
    obtain ⟨v, hv, rfl⟩ := List.mem_map.mp hl
    have hname := (h.values v hv).upper
    have hnumber := (flat_toString_int v.number).unbroken
    simp +decide [Solid, line, unbroken_append, hname, -Int.toString_eq_repr, hnumber]
  rw [enumLines, List.forall_mem_append, List.forall_mem_append]
  refine ⟨⟨by simp [Solid], solid_braced hhead (by decide) hvalues⟩, ?_⟩
  simp only [List.forall_mem_cons]
  exact ⟨trivial, hconst, by simp⟩

theorem Oneof.solid_lines {o : Oneof} (hname : Unbroken o.name)
    (hmembers : ∀ f ∈ o.members, Unbroken f.name) : ∀ l ∈ o.lines, Solid l := by
  have hhead : Unbroken ("export enum " ++ Identifier.oneofStem o.name ++ "Case ") := by
    simp +decide [unbroken_append, hname.oneofStem]
  have hcases : ∀ l ∈ oneofCaseLines o, Solid l := by
    rw [oneofCaseLines, List.forall_mem_cons]
    constructor
    · simp +decide [Solid, line, unbroken_append, hname.upper]
    · intro l hl
      obtain ⟨f, hf, rfl⟩ := List.mem_map.mp hl
      have hmember := (hmembers f hf).upper
      have hnumber := (flat_toString_int f.number).unbroken
      simp +decide [Solid, line, unbroken_append, hmember, -Int.toString_eq_repr, hnumber]
  rw [Oneof.lines, List.forall_mem_append]
  exact ⟨by simp [Solid], solid_braced hhead (by decide) hcases⟩

theorem solid_caseAccessor {className : String} {o : Oneof} (hclass : Unbroken className)
    (ho : Unbroken o.name) : Solid (line (o.caseAccessor className)) := by
  have hstem := ho.oneofStem
  simp +decide [Oneof.caseAccessor, Solid, line, unbroken_append, hstem, hclass]

theorem solid_commonMembers {name : String} (h : Unbroken name) :
    ∀ l ∈ (commonMembers name).map line, Solid l := by
  simp +decide [commonMembers, numberKeyed, Solid, line, unbroken_append, h]

theorem solid_classLines {name : String} {properties : List Property} {oneofs : List Oneof}
    (dialect : Schema.Dialect) (hname : Unbroken name) (hproperties : ∀ p ∈ properties, p.Unbroken viewer)
    (honeofs : ∀ o ∈ oneofs, Unbroken o.name) :
    ∀ l ∈ classLines dialect viewer name properties oneofs, Solid l := by
  have hhead : Unbroken ("export class " ++ name ++ " extends jspb.Message ") := by
    simp +decide [unbroken_append, hname]
  refine solid_braced hhead (by decide) ?_
  rw [List.forall_mem_append, List.forall_mem_append]
  refine ⟨⟨?_, ?_⟩, solid_commonMembers hname⟩
  · intro l hl
    obtain ⟨p, hp, hl⟩ := List.mem_flatMap.mp hl
    rw [Property.lines, List.mem_append, List.mem_map] at hl
    rcases hl with ⟨a, ha, rfl⟩ | hl
    · exact (hproperties p hp).solid_accessors dialect a ha
    · rw [List.mem_singleton.mp hl]
      trivial
  · intro l hl
    obtain ⟨o, ho, rfl⟩ := List.mem_map.mp hl
    exact solid_caseAccessor hname (honeofs o ho)

theorem solid_objectLines {properties : List Property} (dialect : Schema.Dialect)
    (hproperties : ∀ p ∈ properties, p.Unbroken viewer) :
    ∀ l ∈ objectLines dialect viewer properties, Solid l := by
  refine solid_braced (by decide) (by decide) ?_
  intro l hl
  obtain ⟨p, hp, rfl⟩ := List.mem_map.mp hl
  exact (hproperties p hp).solid_objectEntry dialect

section Linked

variable {index : TypeIndex} (hindex : ∀ e ∈ index.exports, e.Unbroken)

include hindex

theorem Property.unbroken_of_link {f : Schema.Field} {p : Property}
    (h : Property.link index viewer f = .ok p) (hname : Text.Unbroken f.name) : p.Unbroken viewer where
  name := by
    rw [Property.field_of_link h]
    exact hname
  targets := fun e he => (hindex e (Property.mem_exports_of_link h e he)).reference viewer

theorem Extension.solid_of_link {f : Schema.Field} {x : Extension}
    (h : Extension.link index viewer f = .ok x) (hname : Unbroken f.name) :
    ∀ l ∈ x.lines viewer, Solid l := by
  obtain ⟨hfield, hexports⟩ := Extension.mem_exports_of_link h
  exact Extension.solid_lines (hfield ▸ hname) fun e he => (hindex e (hexports e he)).reference viewer

theorem Message.solid_lines {m : Schema.Message} {m' : Message} (dialect : Schema.Dialect)
    (hlink : Message.link index viewer m = .ok m') (hnames : ∀ n ∈ m.withNested, n.Unbroken) :
    ∀ l ∈ m'.lines dialect viewer, Solid l := by
  induction m using Schema.Message.induct generalizing m' with
  | step m ih =>
    have hown := hnames m m.mem_withNested_self
    rw [Message.link_eq] at hlink
    obtain ⟨properties, hproperties, hlink⟩ := bind_eq_ok.mp hlink
    obtain ⟨nested, hnested, hlink⟩ := bind_eq_ok.mp hlink
    obtain ⟨extensions, hextensions, hlink⟩ := bind_eq_ok.mp hlink
    cases pure_eq_ok.mp hlink
    have hproperty : ∀ p ∈ properties, p.Unbroken viewer := by
      intro p hp
      obtain ⟨f, hf, hfp⟩ := (mem_results (mapM_eq_ok.mp hproperties)).mp hp
      exact Property.unbroken_of_link hindex hfp (hown.fields f hf)
    have honeof : ∀ o ∈ realOneofs m.oneofs m.fields, Unbroken o.name ∧ ∀ f ∈ o.members, Unbroken f.name := by
      intro o ho
      obtain ⟨hname, hmembers⟩ := mem_realOneofs ho
      exact ⟨hown.oneofs _ hname, fun f hf => hown.fields f (hmembers f hf)⟩
    have hclass := solid_classLines dialect hown.name hproperty fun o ho => (honeof o ho).1
    have hobject := solid_objectLines dialect hproperty
    -- Pair types are not linked, so the hypothesis is needed of the other nested messages alone.
    have hinner : ∀ l ∈ nested.flatMap (Message.lines dialect viewer), Solid l := by
      intro l hl
      obtain ⟨n', hn', hl⟩ := List.mem_flatMap.mp hl
      rw [linkMessages_eq_mapM] at hnested
      obtain ⟨n, hn, hnn'⟩ := (mem_results (mapM_eq_ok.mp hnested)).mp hn'
      have hn := (List.mem_filter.mp hn).1
      exact ih n hn hnn' (fun k hk => hnames k (Schema.Message.withNested_subset hn hk)) l hl
    have henums : ∀ l ∈ m.enums.flatMap enumLines, Solid l := by
      intro l hl
      obtain ⟨e, he, hl⟩ := List.mem_flatMap.mp hl
      exact solid_enumLines (hown.enums e he) l hl
    have hcases : ∀ l ∈ (realOneofs m.oneofs m.fields).flatMap Oneof.lines, Solid l := by
      intro l hl
      obtain ⟨o, ho, hl⟩ := List.mem_flatMap.mp hl
      exact Oneof.solid_lines (honeof o ho).1 (honeof o ho).2 l hl
    have hconstants : ∀ l ∈ extensions.flatMap (Extension.lines viewer), Solid l := by
      intro l hl
      obtain ⟨x, hx, hl⟩ := List.mem_flatMap.mp hl
      obtain ⟨f, hf, hfx⟩ := (mem_results (mapM_eq_ok.mp hextensions)).mp hx
      exact Extension.solid_of_link hindex hfx (hown.extensions f hf) l hl
    have hhead : Unbroken ("export namespace " ++ m.name ++ " ") := by
      simp +decide [unbroken_append, hown.name]
    have hbody := solid_braced hhead (by decide : Unbroken "") (List.forall_mem_append.mpr
      ⟨List.forall_mem_append.mpr ⟨List.forall_mem_append.mpr ⟨List.forall_mem_append.mpr
        ⟨hobject, hinner⟩, henums⟩, hcases⟩, hconstants⟩)
    rw [Message.lines_eq]
    simp only [List.forall_mem_append] at hbody ⊢
    exact ⟨⟨⟨by simp [Solid], hclass⟩, by simp [Solid]⟩, hbody⟩

end Linked

end Declaration

end ProtoStubs
