import Mathlib.Data.List.Nodup
import ProtoStubs.Proofs.PrintedMessages

/-!
# The case enumerations of oneofs

A message shows the oneofs that its author wrote, each with an accessor and with an enumeration of its
members. While the fields are printed, their members are collected oneof by oneof; which oneofs are shown is
found from all fields. The two agree: every field of a oneof that is not a proto3 `optional` is a member of
exactly one enumeration.
-/

namespace ProtoStubs

open Layout
open Text (startsWith endsWith)

namespace Schema.Message

variable (m : Message)

/-- A oneof is left out if it has fields, and each of them is a proto3 `optional`. -/
def LeavesOut (i : Nat) : Prop :=
  (∃ f ∈ m.fields, f.oneofIndex = some (i : Int)) ∧
    ∀ f ∈ m.fields, f.oneofIndex = some (i : Int) → f.proto3Optional = true

instance (i : Nat) : Decidable (m.LeavesOut i) := inferInstanceAs (Decidable (_ ∧ _))

def shownOneofs : List (String × Nat) := m.oneofs.zipIdx.filter fun p => ¬ m.LeavesOut p.2

/-- The fields of the oneof with this index that are no proto3 `optional`. -/
def caseMembers (i : Int) : List Field :=
  m.fields.filter fun f => f.oneofIndex = some i ∧ f.proto3Optional = false

/-- The field is no proto3 `optional`, and its oneof is one of the message. -/
def IsCase (f : Field) : Prop :=
  f.proto3Optional = false ∧ ∃ i < m.oneofs.length, f.oneofIndex = some (i : Int)

instance (f : Field) : Decidable (m.IsCase f) := inferInstanceAs (Decidable (_ ∧ _))

end Schema.Message

namespace Schema

abbrev Cases := Int → List Field

/-- One more field: a member of a oneof is added behind the other members of the same oneof. -/
def Cases.collect (cases : Cases) (f : Field) : Cases := fun i =>
  if f.inRealOneof ∧ f.oneofIndex = some i then cases i ++ [f] else cases i

theorem Cases.collect_apply (cases : Cases) (f : Field) (i : Int) :
    cases.collect f i =
      cases i ++ [f].filter fun g => g.oneofIndex = some i ∧ g.proto3Optional = false := by
  rw [Cases.collect, Field.inRealOneof]
  by_cases h : f.oneofIndex = some i
  · cases ho : f.proto3Optional <;> simp [h, ho]
  · simp [h]

theorem Cases.foldl_collect (fields : List Field) (cases : Cases) (i : Int) :
    fields.foldl Cases.collect cases i =
      cases i ++ fields.filter fun g => g.oneofIndex = some i ∧ g.proto3Optional = false := by
  induction fields generalizing cases with
  | nil => simp
  | cons f fields ih =>
    rw [List.foldl_cons, ih, Cases.collect_apply, List.append_assoc, ← List.filter_append,
      List.singleton_append]

end Schema

namespace Schema.Message

variable {m : Message}

theorem isSyntheticOneof_iff {i : Nat} : isSyntheticOneof m.fields i = true ↔ m.LeavesOut i := by
  simp [isSyntheticOneof, oneofFields, LeavesOut, ← imp_iff_not_or]

theorem caseMembers_of_leavesOut {i : Nat} (h : m.LeavesOut i) : m.caseMembers i = [] := by
  rw [caseMembers, List.filter_eq_nil_iff]
  intro f hf
  rw [decide_eq_true_iff, not_and, Bool.not_eq_false]
  exact h.2 f hf

theorem filter_oneofFields (i : Nat) :
    (oneofFields m.fields i).filter (fun f => !f.proto3Optional) = m.caseMembers i := by
  rw [oneofFields, List.filter_filter, caseMembers]
  apply List.filter_congr
  intro f _
  rw [Bool.beq_eq_decide_eq, Bool.decide_and, Bool.and_comm, Bool.decide_eq_false]

theorem realOneofs_eq :
    Declaration.realOneofs m.oneofs m.fields = m.shownOneofs.map fun p => ⟨p.1, m.caseMembers p.2⟩ := by
  rw [Declaration.realOneofs, shownOneofs, ← List.filterMap_eq_map, List.filterMap_filter]
  apply List.filterMap_congr
  intro p _
  by_cases h : m.LeavesOut p.2
  · simp [isSyntheticOneof_iff.mpr h, h]
  · simp [isSyntheticOneof_iff.not.mpr h, h, filter_oneofFields]

end Schema.Message

theorem perm_flatMap_filter {α κ : Type} [DecidableEq κ] (key : α → Option κ) (xs : List α) {keys : List κ}
    (hkeys : keys.Nodup) :
    (keys.flatMap fun k => xs.filter fun x => key x = some k).Perm
      (xs.filter fun x => ∃ k ∈ keys, key x = some k) := by
  induction keys with
  | nil => simp
  | cons k keys ih =>
    obtain ⟨hk, hkeys⟩ := List.nodup_cons.mp hkeys
    have hsplit := List.filter_append_perm (fun x => key x = some k)
      (xs.filter fun x => ∃ k' ∈ k :: keys, key x = some k')
    have hfirst : (xs.filter fun x => ∃ k' ∈ k :: keys, key x = some k').filter (fun x => key x = some k) =
        xs.filter fun x => key x = some k := by
      rw [List.filter_filter]
      apply List.filter_congr
      intro x _
      rw [← Bool.decide_and, decide_eq_decide, and_iff_left_iff_imp]
      exact fun h => ⟨k, List.mem_cons_self, h⟩
    have hothers : (xs.filter fun x => ∃ k' ∈ k :: keys, key x = some k').filter
        (fun x => !decide (key x = some k)) = xs.filter fun x => ∃ k ∈ keys, key x = some k := by
      rw [List.filter_filter]
      apply List.filter_congr
      intro x _
      rw [← decide_not, ← Bool.decide_and, decide_eq_decide]
      constructor
      · rintro ⟨hne, k', hk', hx⟩
        rcases List.mem_cons.mp hk' with rfl | hk'
        · exact absurd hx hne
        · exact ⟨k', hk', hx⟩
      · rintro ⟨k', hk', hx⟩
        refine ⟨?_, k', List.mem_cons_of_mem k hk', hx⟩
        intro h
        cases h.symm.trans hx
        exact hk hk'
    rw [hfirst, hothers] at hsplit
    exact ((ih hkeys).append_left _).trans hsplit

namespace Schema.Message

variable {m : Message}

theorem flatMap_shownOneofs :
    (m.shownOneofs.flatMap fun p => m.caseMembers p.2) =
      (List.range m.oneofs.length).flatMap fun (i : Nat) => m.caseMembers i := by
  have hindices : m.oneofs.zipIdx.map Prod.snd = List.range m.oneofs.length := by
    rw [List.zipIdx_map_snd, List.range_eq_range']
  rw [← hindices, List.flatMap_map, shownOneofs]
  -- The oneofs that are left out have no members.
  induction m.oneofs.zipIdx with
  | nil => rfl
  | cons p ps ih =>
    by_cases h : m.LeavesOut p.2
    · rw [List.filter_cons_of_neg (by simpa using h), List.flatMap_cons, caseMembers_of_leavesOut h, ih,
        List.nil_append]
    · rw [List.filter_cons_of_pos (by simpa using h), List.flatMap_cons, List.flatMap_cons, ih]

theorem eq_of_mem_caseMembers {p q : String × Nat} (hp : p ∈ m.shownOneofs) (hq : q ∈ m.shownOneofs)
    {f : Field} (hfp : f ∈ m.caseMembers p.2) (hfq : f ∈ m.caseMembers q.2) : p = q := by
  have hindex {i : Int} (hf : f ∈ m.caseMembers i) : f.oneofIndex = some i :=
    (of_decide_eq_true (List.mem_filter.mp hf).2).1
  have hsame : p.2 = q.2 := Int.ofNat.inj (Option.some.inj ((hindex hfp).symm.trans (hindex hfq)))
  have hname {r : String × Nat} (hr : r ∈ m.shownOneofs) : m.oneofs[r.2]? = some r.1 :=
    List.mem_zipIdx_iff_getElem?.mp (List.mem_filter.mp hr).1
  have hp := hname hp
  rw [hsame, hname hq] at hp
  exact Prod.ext (Option.some.inj hp).symm hsame

/-- The members of the oneofs that are shown are the cases of the message, each of them once. -/
theorem perm_shownOneofs :
    (m.shownOneofs.flatMap fun p => m.caseMembers p.2).Perm (m.fields.filter m.IsCase) := by
  have hmembers (i : Nat) : m.caseMembers i =
      (m.fields.filter fun f => f.proto3Optional = false).filter fun f => f.oneofIndex = some (i : Int) := by
    rw [List.filter_filter, caseMembers]
    apply List.filter_congr
    intro f _
    rw [Bool.decide_and]
  have hkeys : ((List.range m.oneofs.length).map Int.ofNat).Nodup :=
    List.Nodup.map (fun _ _ => Int.ofNat.inj) List.nodup_range
  have hperm := perm_flatMap_filter Field.oneofIndex (m.fields.filter fun f => f.proto3Optional = false)
    hkeys
  rw [List.flatMap_map] at hperm
  rw [flatMap_shownOneofs]
  simp only [hmembers]
  refine hperm.trans (List.Perm.of_eq ?_)
  rw [List.filter_filter]
  apply List.filter_congr
  intro f _
  rw [← Bool.decide_and, decide_eq_decide, and_comm]
  simp [IsCase]

end Schema.Message

namespace Declaration

def isCaseAccessor (c : String) : Bool := startsWith "get" c && endsWith "Case;" c

/-- The accessors of cases that the class of a message shows. -/
def caseAccessors (level : Nat) (name : String) (ls : List Line) : List String :=
  (contentsAt (level + 1) (classBody level name ls)).filter isCaseAccessor

def isCaseEnum (s : Section) : Bool := startsWith "export enum " s.head

/-- The case enumerations that the namespace of a message shows. -/
def caseEnums (level : Nat) (name : String) (ls : List Line) : List Section :=
  (sectionsAt (level + 1) (namespaceBody level name ls)).filter isCaseEnum

def caseEnum (name : String) (members : List Schema.Field) : Section where
  head := "export enum " ++ Identifier.oneofStem name ++ "Case " ++ openBrace
  body := (0, Text.upper name ++ "_NOT_SET = 0,") ::
    members.map fun f => (0, Text.upper f.name ++ " = " ++ toString f.number ++ ",")

section Enums

variable (dialect : Schema.Dialect) (viewer : String)

theorem filter_braced {head : String} (h : startsWith "export enum " (head ++ openBrace) = false)
    (body : List Line) : (outline (braced head body "")).filter isCaseEnum = [] := by
  have hhead : isCaseEnum ⟨head ++ openBrace, written body⟩ = false := h
  have hclose : isCaseEnum ⟨closeBrace ++ "", []⟩ = false := rfl
  rw [outline_braced, List.filter_cons, hhead, List.filter_cons, hclose]
  rfl

theorem filter_objectLines (properties : List Property) :
    (outline (objectLines dialect viewer properties)).filter isCaseEnum = [] :=
  filter_braced rfl _

theorem outermost_messageLines (m : Message) : Outermost (m.lines dialect viewer) := by
  rw [Message.lines_eq]
  exact ((outermost_blank.append (outermost_braced _ _ _)).append outermost_blank).append
    (outermost_braced _ _ _)

theorem filter_messageLines (m : Message) :
    (outline (m.lines dialect viewer)).filter isCaseEnum = [] := by
  have hclass : startsWith "export enum " (classHead m.name ++ openBrace) = false := by
    unfold classHead
    rw [String.append_assoc, String.append_assoc]
    exact Text.startsWith_of_differ rfl _
  have hnamespace : startsWith "export enum " (namespaceHead m.name ++ openBrace) = false := by
    unfold namespaceHead
    rw [String.append_assoc, String.append_assoc]
    exact Text.startsWith_of_differ rfl _
  rw [Message.lines_eq, outline_append (outermost_braced _ _ _), outline_append outermost_blank, classLines,
    outline_append (outermost_braced _ _ _), outline_blank, List.filter_append, List.filter_append,
    List.filter_append]
  exact congrArg₂ (· ++ ·) (congrArg (· ++ []) (filter_braced hclass _)) (filter_braced hnamespace _)

theorem outermost_enumLines (e : Schema.Enum) : Outermost (enumLines e) :=
  (outermost_blank.append (outermost_braced _ _ _)).append (outermost_blank.append (outermost_line _))

theorem filter_enumLines (e : Schema.Enum) : (outline (enumLines e)).filter isCaseEnum = [] := by
  have hinterface : startsWith "export enum " ("export interface " ++ e.name ++ "Map " ++ openBrace) =
      false := by
    rw [String.append_assoc, String.append_assoc]
    exact Text.startsWith_of_differ rfl _
  have hconst : isCaseEnum ⟨"export const " ++ e.name ++ ": " ++ e.name ++ "Map;", []⟩ = false := by
    simp only [isCaseEnum, String.append_assoc]
    exact Text.startsWith_of_differ rfl _
  have houter : Outermost [.blank, line ("export const " ++ e.name ++ ": " ++ e.name ++ "Map;")] :=
    outermost_blank.append (outermost_line _)
  have hlast : outline [.blank, line ("export const " ++ e.name ++ ": " ++ e.name ++ "Map;")] =
      [⟨"export const " ++ e.name ++ ": " ++ e.name ++ "Map;", []⟩] := rfl
  rw [enumLines, outline_append houter, outline_append (outermost_braced _ _ _), outline_blank, hlast,
    List.nil_append, List.filter_append, filter_braced hinterface, List.filter_cons, hconst]
  rfl

theorem outermost_extensionLines (x : Extension) : Outermost (x.lines viewer) :=
  outermost_blank.append (outermost_line _)

theorem filter_extensionLines (x : Extension) : (outline (x.lines viewer)).filter isCaseEnum = [] := by
  have hconst : isCaseEnum ⟨x.constant.render viewer, []⟩ = false := by
    rw [Extension.constant, List.cons_append, Phrase.render_cons, isCaseEnum, Piece.render,
      String.append_assoc, String.append_assoc]
    exact Text.startsWith_of_differ rfl _
  have hlines : outline (x.lines viewer) = [⟨x.constant.render viewer, []⟩] := rfl
  rw [hlines, List.filter_cons, hconst]
  rfl

theorem outermost_oneofLines (o : Oneof) : Outermost o.lines :=
  outermost_blank.append (outermost_braced _ _ _)

theorem filter_oneofLines (o : Oneof) :
    (outline o.lines).filter isCaseEnum = [caseEnum o.name o.members] := by
  have hhead : isCaseEnum ⟨"export enum " ++ Identifier.oneofStem o.name ++ "Case " ++ openBrace,
      written (oneofCaseLines o)⟩ = true := by
    rw [isCaseEnum, String.append_assoc, String.append_assoc]
    exact Text.startsWith_append _ _
  have hclose : isCaseEnum ⟨closeBrace ++ "", []⟩ = false := rfl
  have hbody : written (oneofCaseLines o) = (caseEnum o.name o.members).body := by
    rw [oneofCaseLines, written_cons, written_map_line]
    rfl
  have hlines : outline o.lines =
      [⟨"export enum " ++ Identifier.oneofStem o.name ++ "Case " ++ openBrace, written (oneofCaseLines o)⟩,
        ⟨closeBrace ++ "", []⟩] := by
    rw [Oneof.lines, outline_append (outermost_braced _ _ _), outline_blank, outline_braced]
    rfl
  rw [hlines, List.filter_cons, hhead, List.filter_cons, hclose, hbody]
  rfl

/-- Each oneof shows one enumeration, and nothing else in a namespace is one. -/
theorem caseEnums_lines (level : Nat) (m : Message) :
    caseEnums level m.name (indentBy level (m.lines dialect viewer)) =
      m.oneofs.map fun o => caseEnum o.name o.members := by
  have hnested : Outermost (m.nested.flatMap (Message.lines dialect viewer)) :=
    outermost_flatMap fun n _ => outermost_messageLines dialect viewer n
  have henums : Outermost (m.enums.flatMap enumLines) := outermost_flatMap fun e _ => outermost_enumLines e
  have honeofs : Outermost (m.oneofs.flatMap Oneof.lines) :=
    outermost_flatMap fun o _ => outermost_oneofLines o
  have hextensions : Outermost (m.extensions.flatMap (Extension.lines viewer)) :=
    outermost_flatMap fun x _ => outermost_extensionLines viewer x
  rw [caseEnums, Message.namespaceBody_lines, sectionsAt_indentBy, outline_append hextensions,
    outline_append honeofs, outline_append henums, outline_append hnested]
  simp only [List.filter_append, filter_objectLines,
    outline_flatMap fun n _ => outermost_messageLines dialect viewer n,
    outline_flatMap fun e _ => outermost_enumLines e, outline_flatMap fun o _ => outermost_oneofLines o,
    outline_flatMap fun x _ => outermost_extensionLines viewer x, List.filter_flatMap,
    filter_messageLines, filter_enumLines, filter_oneofLines, filter_extensionLines]
  have hnil {α : Type} (xs : List α) : xs.flatMap (fun _ => ([] : List Section)) = [] :=
    List.flatMap_eq_nil_iff.mpr fun _ _ => rfl
  simp only [hnil, List.nil_append, List.append_nil, List.map_eq_flatMap]

end Enums

section Accessors

variable (viewer upperStem : String)

theorem not_isCaseAccessor_of_lead {lead : String}
    (h : Text.differ "get".toList lead.toList = true) (stem rest : String) (others : Phrase) :
    isCaseAccessor (Phrase.render viewer (.text (lead ++ stem ++ rest) :: others)) = false := by
  rw [Phrase.render_cons, Piece.render, String.append_assoc, String.append_assoc, isCaseAccessor,
    Text.startsWith_of_differ h, Bool.false_and]

theorem not_isCaseAccessor_of_last {last : String}
    (h : Text.differ "Case;".toList.reverse last.toList.reverse = true) (front : Phrase) :
    isCaseAccessor (Phrase.render viewer (front ++ [.text last])) = false := by
  have hlast : Phrase.render viewer [.text last] = last := by simp [Phrase.render, Piece.render]
  rw [Phrase.render_append, hlast, isCaseAccessor, Text.endsWith_of_differ h, Bool.and_false]

theorem not_isCaseAccessor_of_text {last : String}
    (h : Text.differ "Case;".toList.reverse last.toList.reverse = true) (front : String) :
    isCaseAccessor (Phrase.render viewer [.text (front ++ last)]) = false := by
  have hlast : Phrase.render viewer [.text (front ++ last)] = front ++ last := by
    simp [Phrase.render, Piece.render]
  rw [hlast, isCaseAccessor, Text.endsWith_of_differ h, Bool.and_false]

theorem not_isCaseAccessor_map (key value : TypeExpr) :
    ∀ a ∈ mapAccessors upperStem key value, isCaseAccessor (a.render viewer) = false := by
  simp only [mapAccessors, List.forall_mem_cons]
  exact ⟨not_isCaseAccessor_of_last viewer rfl [_, _, _, _], not_isCaseAccessor_of_lead viewer rfl _ _ _,
    List.forall_mem_nil _⟩

theorem not_isCaseAccessor_repeated (t : TypeExpr) :
    ∀ a ∈ repeatedAccessors upperStem t, isCaseAccessor (a.render viewer) = false := by
  have hothers : ∀ a ∈ (if t.isBytes then [
      [.text ("get" ++ upperStem ++ "List_asU8(): Array<Uint8Array>;")],
      [.text ("get" ++ upperStem ++ "List_asB64(): Array<string>;")]] else [] : List Phrase),
      isCaseAccessor (a.render viewer) = false := by
    split
    · simp only [List.forall_mem_cons]
      exact ⟨not_isCaseAccessor_of_text viewer rfl _, not_isCaseAccessor_of_text viewer rfl _,
        List.forall_mem_nil _⟩
    · exact List.forall_mem_nil _
  have hadd (optional : String) (others : Phrase) : isCaseAccessor (Phrase.render viewer
      (.text ("add" ++ upperStem ++ "(value" ++ optional ++ ": ") :: others)) = false := by
    rw [addText_eq]
    exact not_isCaseAccessor_of_lead viewer rfl _ _ _
  unfold repeatedAccessors
  simp only [List.forall_mem_append, List.forall_mem_cons]
  exact ⟨⟨⟨not_isCaseAccessor_of_lead viewer rfl _ _ _, not_isCaseAccessor_of_last viewer rfl [_, _],
    List.forall_mem_nil _⟩, hothers⟩, not_isCaseAccessor_of_lead viewer rfl _ _ _, hadd _ _,
    List.forall_mem_nil _⟩

theorem exists_last_of_not_isMessage {t : TypeExpr} (ht : t.isMessage = false) :
    ∃ front last, t.text viewer ++ ";" = front ++ last ∧
      Text.differ "Case;".toList.reverse last.toList.reverse = true := by
  cases t with
  | scalar type => exact ⟨"", type.text ++ ";", by simp [TypeExpr.text], by cases type <;> rfl⟩
  | message target => cases ht
  | enum target =>
    refine ⟨target.reference viewer ++ "Map[keyof " ++ target.reference viewer, "Map]" ++ ";", ?_, rfl⟩
    simp only [TypeExpr.text, enumValueType, String.append_assoc]

theorem not_isCaseAccessor_singular (t : TypeExpr) :
    ∀ a ∈ singularAccessors upperStem t, isCaseAccessor (a.render viewer) = false := by
  have hothers : ∀ a ∈ (if t.isBytes then [
      [.text ("get" ++ upperStem ++ "_asU8(): Uint8Array;")],
      [.text ("get" ++ upperStem ++ "_asB64(): string;")]] else [] : List Phrase),
      isCaseAccessor (a.render viewer) = false := by
    split
    · simp only [List.forall_mem_cons]
      exact ⟨not_isCaseAccessor_of_text viewer rfl _, not_isCaseAccessor_of_text viewer rfl _,
        List.forall_mem_nil _⟩
    · exact List.forall_mem_nil _
  unfold singularAccessors
  cases ht : t.isMessage with
  | true =>
    simp only [if_true, List.forall_mem_cons]
    exact ⟨not_isCaseAccessor_of_last viewer rfl [_, _], not_isCaseAccessor_of_lead viewer rfl _ _ _,
      List.forall_mem_nil _⟩
  | false =>
    have hget : isCaseAccessor (Phrase.render viewer
        [.text ("get" ++ upperStem ++ "(): "), .type t, .text ";"]) = false := by
      obtain ⟨front, last, hlast, hdiffer⟩ := exists_last_of_not_isMessage viewer ht
      have hrender : Phrase.render viewer [.text ("get" ++ upperStem ++ "(): "), .type t, .text ";"] =
          "get" ++ upperStem ++ "(): " ++ (t.text viewer ++ ";") := by
        simp [Phrase.render, Piece.render]
      rw [hrender, hlast, ← String.append_assoc, isCaseAccessor, Text.endsWith_of_differ hdiffer,
        Bool.and_false]
    simp only [if_neg Bool.false_ne_true, List.forall_mem_append, List.forall_mem_cons]
    exact ⟨⟨⟨hget, List.forall_mem_nil _⟩, hothers⟩, not_isCaseAccessor_of_lead viewer rfl _ _ _,
      List.forall_mem_nil _⟩

theorem not_isCaseAccessor_presence :
    ∀ a ∈ presenceAccessors upperStem, isCaseAccessor (a.render viewer) = false := by
  simp only [presenceAccessors, List.forall_mem_cons]
  exact ⟨not_isCaseAccessor_of_lead viewer rfl _ _ _, not_isCaseAccessor_of_lead viewer rfl _ _ _,
    List.forall_mem_nil _⟩

/-- No accessor of a field is one of a case, whatever the field is called. -/
theorem Property.not_isCaseAccessor (dialect : Schema.Dialect) (p : Property) :
    ∀ a ∈ p.accessors dialect, isCaseAccessor (a.render viewer) = false := by
  unfold Property.accessors
  cases p.type with
  | map key value => exact not_isCaseAccessor_map viewer _ key value
  | plain type =>
    simp only
    split
    · exact not_isCaseAccessor_repeated viewer _ type
    · rw [List.forall_mem_append]
      refine ⟨?_, not_isCaseAccessor_singular viewer _ type⟩
      split
      · exact not_isCaseAccessor_presence viewer _
      · exact List.forall_mem_nil _

theorem not_isCaseAccessor_commonMembers (name : String) :
    ∀ c ∈ commonMembers name, isCaseAccessor c = false := by
  have hlead {lead : String} (h : Text.differ "get".toList lead.toList = true) (rest : String) :
      isCaseAccessor (lead ++ rest) = false := by
    rw [isCaseAccessor, Text.startsWith_of_differ h, Bool.false_and]
  simp only [commonMembers, String.append_assoc, List.forall_mem_cons]
  exact ⟨rfl, hlead rfl _, hlead rfl _, hlead rfl _, hlead rfl _, hlead rfl _, hlead rfl _, hlead rfl _,
    List.forall_mem_nil _⟩

theorem isCaseAccessor_caseAccessor (name : String) (o : Oneof) :
    isCaseAccessor (o.caseAccessor name) = true := by
  rw [isCaseAccessor, Bool.and_eq_true]
  constructor
  · simp only [Oneof.caseAccessor, String.append_assoc]
    exact Text.startsWith_append _ _
  · exact Text.endsWith_append _ _

/-- Each oneof shows one accessor, and no other member of a class is one. -/
theorem caseAccessors_lines (dialect : Schema.Dialect) (level : Nat) (m : Message) :
    caseAccessors level m.name (indentBy level (m.lines dialect viewer)) =
      m.oneofs.map fun o => o.caseAccessor m.name := by
  have hfields : (contentsAt 0 (m.properties.flatMap (Property.lines dialect viewer))).filter
      isCaseAccessor = [] := by
    rw [contentsAt_flatMap, List.filter_flatMap, List.flatMap_eq_nil_iff]
    intro p _
    rw [Property.contentsAt_lines, List.filter_eq_nil_iff, List.forall_mem_map]
    intro a ha
    rw [p.not_isCaseAccessor viewer dialect a ha]
    exact Bool.false_ne_true
  have honeofs : (m.oneofs.map fun o => o.caseAccessor m.name).filter isCaseAccessor =
      m.oneofs.map fun o => o.caseAccessor m.name := by
    rw [List.filter_eq_self, List.forall_mem_map]
    exact fun o _ => isCaseAccessor_caseAccessor m.name o
  have hcommon : (commonMembers m.name).filter isCaseAccessor = [] := by
    rw [List.filter_eq_nil_iff]
    intro c hc
    rw [not_isCaseAccessor_commonMembers m.name c hc]
    exact Bool.false_ne_true
  have hmembers : contentsAt 0 ((commonMembers m.name).map line) = commonMembers m.name :=
    (contentsAt_map_line id _).trans (List.map_id _)
  rw [caseAccessors, Message.classBody_lines, contentsAt_indentBy, contentsAt_append, contentsAt_append,
    contentsAt_map_line, hmembers, List.filter_append, List.filter_append, hfields, honeofs, hcommon,
    List.nil_append, List.append_nil]

end Accessors

/-- A message shows the oneofs of its author, each with an accessor and an enumeration of its members. The
fields of its oneofs that are no proto3 `optional` are the members of these enumerations, each of exactly
one, and no oneof that is left out has such a field. -/
theorem printMessage_oneofs {index : TypeIndex} {dialect : Schema.Dialect} {viewer : String} {level : Nat}
    {m : Schema.Message} (hm : m.isMapEntry = false) {ls : List Line}
    (h : printMessage index dialect viewer level m = .ok ls) :
    caseAccessors level m.name ls = m.shownOneofs.map (fun p =>
      "get" ++ Identifier.oneofStem p.1 ++ "Case(): " ++ m.name ++ "." ++ Identifier.oneofStem p.1 ++
        "Case;") ∧
    caseEnums level m.name ls = m.shownOneofs.map (fun p => caseEnum p.1 (m.caseMembers p.2)) ∧
    (∀ i, m.fields.foldl Schema.Cases.collect (fun _ => []) i = m.caseMembers i) ∧
    (m.shownOneofs.flatMap fun p => m.caseMembers p.2).Perm (m.fields.filter m.IsCase) ∧
    (∀ p ∈ m.shownOneofs, ∀ q ∈ m.shownOneofs, ∀ f ∈ m.caseMembers p.2, f ∈ m.caseMembers q.2 → p = q) ∧
    ∀ i : Nat, m.LeavesOut i → m.caseMembers i = [] := by
  obtain ⟨m', hlink, rfl⟩ := exists_link_of_printMessage hm h
  obtain ⟨hname, -, honeofs⟩ := Message.parts_of_link hlink
  rw [Schema.Message.realOneofs_eq] at honeofs
  refine ⟨?_, ?_, ?_, Schema.Message.perm_shownOneofs, ?_, fun i => Schema.Message.caseMembers_of_leavesOut⟩
  · rw [← hname, caseAccessors_lines, honeofs, List.map_map]
    rfl
  · rw [← hname, caseEnums_lines, honeofs, List.map_map]
    rfl
  · intro i
    rw [Schema.Cases.foldl_collect, List.nil_append]
    rfl
  · intro p hp q hq f hfp hfq
    exact Schema.Message.eq_of_mem_caseMembers hp hq hfp hfq

/-- A message with a oneof between whose members stands a proto3 `optional`, with one that has none but
such a field, with one that has no field, and with fields of oneofs that it does not have. -/
def pickDescriptor : Descriptor.Message where
  name := some "Pick"
  fields := [
    { name := some "first", number := some 1, type := some 9, oneofIndex := some 0 },
    { name := some "lone", number := some 2, type := some 9, oneofIndex := some 1,
      proto3Optional := some true },
    { name := some "mixed", number := some 3, type := some 9, oneofIndex := some 0,
      proto3Optional := some true },
    { name := some "second", number := some 4, type := some 5, oneofIndex := some 0 },
    { name := some "above", number := some 5, type := some 5, oneofIndex := some 3 },
    { name := some "below", number := some 6, type := some 5, oneofIndex := some (-1) }]
  oneofs := [{ name := some "choice" }, { name := some "_lone" }, { name := some "no_field" }]

theorem pickDescriptor_oneofs : ∃ m ls, Schema.Message.load "" pickDescriptor = .ok m ∧
    m.isMapEntry = false ∧ printMessage {} .proto3 "pick.proto" 1 m = .ok ls ∧
    caseAccessors 1 "Pick" ls =
      ["getChoiceCase(): Pick.ChoiceCase;", "getNoFieldCase(): Pick.NoFieldCase;"] ∧
    (caseEnums 1 "Pick" ls).map (·.body) =
      [[(0, "CHOICE_NOT_SET = 0,"), (0, "FIRST = 1,"), (0, "SECOND = 4,")], [(0, "NO_FIELD_NOT_SET = 0,")]] := by
  obtain ⟨m, hload⟩ : Succeeds (Schema.Message.load "" pickDescriptor) := ⟨_, rfl⟩
  have hm : m.isMapEntry = false := by
    cases hload
    rfl
  obtain ⟨ls, hprint⟩ : Succeeds (printMessage {} .proto3 "pick.proto" 1 m) := by
    cases hload
    exact ⟨_, rfl⟩
  obtain ⟨haccessors, henums, -⟩ := printMessage_oneofs hm hprint
  refine ⟨m, ls, hload, hm, hprint, ?_⟩
  cases hload
  exact ⟨haccessors.trans (by decide), (congrArg _ henums).trans (by decide)⟩

/-- A pair type of which the key and the value stand in a oneof. -/
def pairDescriptor : Descriptor.Message where
  name := some "E"
  fields := [
    { name := some "key", number := some 1, type := some 9, oneofIndex := some 0 },
    { name := some "value", number := some 2, type := some 9, oneofIndex := some 0 }]
  oneofs := [{ name := some "choice" }]
  options := some { mapEntry := some true }

/-- A pair type shows nothing, and so no oneof of its own. -/
theorem pairDescriptor_oneofs : ∃ m, Schema.Message.load "" pairDescriptor = .ok m ∧
    m.shownOneofs = [("choice", 0)] ∧ printMessage {} .proto3 "a.proto" 0 m = .ok [] ∧
    caseAccessors 0 m.name [] = [] ∧ caseEnums 0 m.name [] = [] :=
  ⟨_, rfl, by decide, rfl, rfl, rfl⟩

end Declaration

end ProtoStubs
