import ProtoStubs.Proofs.FieldBlocks

/-!
# Ordinary names in camel case

An ordinary name has segments with low lines between them, and each segment is a small letter with small letters
and digits after it. In camel case the low lines go and the segments after them begin with capitals. No other
character is a capital then, so the name can be read back, and two names that are not the same have neither
stems nor keys in common.
-/

namespace ProtoStubs

namespace Text

theorem lowerBetween_of_isNameChar {c : Char} (hc : isNameChar c = true) (before after : List Char) :
    lowerBetween before c after = [c.toLower] := by
  have hsigma : (c == 'Σ') = false := forall_isNameChar (P := fun c => (c == 'Σ') = false) (by decide) hc
  rw [lowerBetween, hsigma, Bool.false_and, if_neg Bool.false_ne_true, lowerChar,
    if_pos (toNat_lt_of_isNameChar hc)]

theorem lowerAfter_of_isNameChar {cs : List Char} (h : ∀ c ∈ cs, isNameChar c = true) (before : List Char) :
    lowerAfter before cs = cs.map Char.toLower := by
  induction cs generalizing before with
  | nil => rfl
  | cons c cs ih =>
    rw [List.forall_mem_cons] at h
    rw [lowerAfter, lowerBetween_of_isNameChar h.1, ih h.2]
    rfl

theorem toList_lower {s : String} (h : NameChars s) : (lower s).toList = s.toList.map Char.toLower := by
  rw [lower, String.toList_ofList, lowerAfter_of_isNameChar h]

theorem upperChar_of_isNameChar {c : Char} (hc : isNameChar c = true) : upperChar c = [c.toUpper] := by
  rw [upperChar, if_pos (toNat_lt_of_isNameChar hc)]

theorem lowerChar_of_isNameChar {c : Char} (hc : isNameChar c = true) : lowerChar c = [c.toLower] := by
  rw [lowerChar, if_pos (toNat_lt_of_isNameChar hc)]

theorem toList_upper {s : String} (h : NameChars s) : (upper s).toList = s.toList.map Char.toUpper := by
  rw [upper, String.toList_ofList, List.map_eq_flatMap]
  exact List.flatMap_congr fun c hc => upperChar_of_isNameChar (h c hc)

/-- Every character is that of the name, or that in upper case. -/
def IsCasing (cased name : String) : Prop :=
  List.Forall₂ (fun d c => d = c ∨ d = c.toUpper) cased.toList name.toList

instance (cased name : String) : Decidable (IsCasing cased name) :=
  inferInstanceAs (Decidable (List.Forall₂ _ cased.toList name.toList))

theorem isCasing_upper {name : String} (h : NameChars name) : IsCasing (upper name) name := by
  rw [IsCasing, toList_upper h, List.forall₂_map_left_iff, List.forall₂_same]
  exact fun c _ => .inr rfl

end Text

namespace Identifier

open Text (isNameChar NameChars IsCasing)

/-- A small letter, and small letters and digits after it. -/
def IsSegment : List Char → Prop
  | [] => False
  | c :: rest => c.isLower = true ∧ ∀ d ∈ rest, (d.isLower || d.isDigit) = true

instance : (segment : List Char) → Decidable (IsSegment segment)
  | [] => inferInstanceAs (Decidable False)
  | c :: rest =>
    decidable_of_iff (c.isLower = true ∧ rest.all (fun d => d.isLower || d.isDigit) = true)
      (by rw [IsSegment, List.all_eq_true])

/-- One or more segments with single low lines between them. -/
inductive OrdinaryChars : List Char → Prop
  | segment {seg : List Char} (hseg : IsSegment seg) : OrdinaryChars seg
  | append {seg cs : List Char} (hseg : IsSegment seg) (hcs : OrdinaryChars cs) :
    OrdinaryChars (seg ++ '_' :: cs)

def IsOrdinary (name : String) : Prop := OrdinaryChars name.toList

def markCapital (c : Char) : List Char := if c.isUpper then ['_', c] else [c]

/-- A low line before each capital, and all in lower case. -/
def snakeCase (s : String) : String := Text.lower (String.ofList (s.toList.flatMap markCapital))

section Characters

structure Small (c : Char) : Prop where
  isNameChar : isNameChar c = true
  ne_low : c ≠ '_'
  isUpper : c.isUpper = false
  toLower : c.toLower = c
  toLower_toUpper : c.toUpper.toLower = c

theorem small_of_or {c : Char} (h : (c.isLower || c.isDigit) = true) : Small c := by
  have hname : isNameChar c = true := by
    have hsame : isNameChar c = (c.isUpper || c.isLower || c.isDigit || c == '_') := rfl
    rw [hsame, Bool.or_assoc c.isUpper, h, Bool.or_true, Bool.true_or]
  have hall := Text.forall_isNameChar (P := fun c => (c.isLower || c.isDigit) = true →
    c ≠ '_' ∧ c.isUpper = false ∧ c.toLower = c ∧ c.toUpper.toLower = c) (by decide) hname h
  exact ⟨hname, hall.1, hall.2.1, hall.2.2.1, hall.2.2.2⟩

theorem small_of_isLower {c : Char} (h : c.isLower = true) : Small c := small_of_or (by rw [h, Bool.true_or])

theorem isUpper_toUpper {c : Char} (h : c.isLower = true) : c.toUpper.isUpper = true :=
  Text.forall_isNameChar (P := fun c => c.isLower = true → c.toUpper.isUpper = true) (by decide)
    (small_of_isLower h).isNameChar h

theorem isWordChar_of_isNameChar {c : Char} (h : isNameChar c = true) : Text.isWordChar c = true := by
  rw [Text.isWordChar, if_pos (Text.toNat_lt_of_isNameChar h)]
  exact h

end Characters

section Segments

variable {segment cs : List Char}

theorem IsSegment.small (h : IsSegment segment) : ∀ c ∈ segment, Small c := by
  cases segment with
  | nil => exact h.elim
  | cons c rest =>
    rw [List.forall_mem_cons]
    exact ⟨small_of_isLower h.1, fun d hd => small_of_or (h.2 d hd)⟩

theorem IsSegment.low_not_mem (h : IsSegment segment) : '_' ∉ segment :=
  fun hmem => (h.small _ hmem).ne_low rfl

theorem ordinaryChars_iff : OrdinaryChars cs ↔ ∀ seg ∈ Text.splitChars '_' cs, IsSegment seg := by
  constructor
  · intro h
    induction h with
    | segment hseg =>
      rw [Text.splitChars_of_not_mem hseg.low_not_mem, List.forall_mem_singleton]
      exact hseg
    | append hseg _ ih =>
      rw [Text.splitChars_append hseg.low_not_mem, List.forall_mem_cons]
      exact ⟨hseg, ih⟩
  · intro h
    induction hlength : cs.length using Nat.strongRecOn generalizing cs with
    | ind n ih =>
      by_cases hmem : '_' ∈ cs
      · obtain ⟨seg, rest, rfl, hseg⟩ := List.eq_append_cons_of_mem hmem
        rw [Text.splitChars_append hseg, List.forall_mem_cons] at h
        refine .append h.1 (ih rest.length ?_ h.2 rfl)
        rw [← hlength, List.length_append, List.length_cons]
        omega
      · rw [Text.splitChars_of_not_mem hmem, List.forall_mem_singleton] at h
        exact .segment h

instance (name : String) : Decidable (IsOrdinary name) := decidable_of_iff _ ordinaryChars_iff.symm

theorem OrdinaryChars.exists_cons (h : OrdinaryChars cs) : ∃ c rest, cs = c :: rest ∧ c.isLower = true := by
  have hfirst {seg : List Char} (hseg : IsSegment seg) : ∃ c rest, seg = c :: rest ∧ c.isLower = true := by
    cases seg with
    | nil => exact hseg.elim
    | cons c rest => exact ⟨c, rest, rfl, hseg.1⟩
  cases h with
  | segment hseg => exact hfirst hseg
  | append hseg _ =>
    obtain ⟨c, rest, rfl, hc⟩ := hfirst hseg
    exact ⟨c, _, rfl, hc⟩

theorem OrdinaryChars.small_or (h : OrdinaryChars cs) : ∀ c ∈ cs, Small c ∨ c = '_' := by
  induction h with
  | segment hseg => exact fun c hc => .inl (hseg.small c hc)
  | append hseg _ ih =>
    rw [List.forall_mem_append, List.forall_mem_cons]
    exact ⟨fun c hc => .inl (hseg.small c hc), .inr rfl, ih⟩

theorem camelChars_cons {c : Char} (hc : c ≠ '_') (rest : List Char) :
    camelChars (c :: rest) = c :: camelChars rest := by
  simp [camelChars, hc]

theorem camelChars_append (h : '_' ∉ segment) (rest : List Char) :
    camelChars (segment ++ rest) = segment ++ camelChars rest := by
  induction segment with
  | nil => rfl
  | cons c segment ih =>
    rw [List.mem_cons, not_or] at h
    rw [List.cons_append, camelChars_cons (Ne.symm h.1), ih h.2]
    rfl

theorem camelChars_of_not_mem (h : '_' ∉ segment) : camelChars segment = segment := by
  simpa [camelChars] using camelChars_append h []

theorem camelChars_low_cons {c : Char} (hc : c.isLower = true) (rest : List Char) :
    camelChars ('_' :: c :: rest) = c.toUpper :: camelChars rest := by
  have hname := (small_of_isLower hc).isNameChar
  rw [camelChars, if_pos (isWordChar_of_isNameChar hname), Text.upperChar_of_isNameChar hname]
  rfl

theorem flatMap_markCapital (h : ∀ c ∈ segment, Small c) : segment.flatMap markCapital = segment := by
  have hmark : ∀ c ∈ segment, markCapital c = [c] := fun c hc => by
    rw [markCapital, (h c hc).isUpper, if_neg Bool.false_ne_true]
  rw [List.flatMap_congr hmark, ← List.map_eq_flatMap, List.map_id']

theorem map_toLower (h : ∀ c ∈ segment, Small c) : segment.map Char.toLower = segment := by
  rw [List.map_congr_left fun c hc => (h c hc).toLower, List.map_id']

/-- The capitals of a name in camel case tell where its low lines were. -/
theorem OrdinaryChars.snake_camel (h : OrdinaryChars cs) :
    ((camelChars cs).flatMap markCapital).map Char.toLower = cs := by
  induction h with
  | @segment seg hseg =>
    rw [camelChars_of_not_mem hseg.low_not_mem, flatMap_markCapital hseg.small, map_toLower hseg.small]
  | append hseg hcs ih =>
    obtain ⟨c, rest, rfl, hc⟩ := hcs.exists_cons
    have hsmall := small_of_isLower hc
    have hmark : markCapital c.toUpper = ['_', c.toUpper] := by
      rw [markCapital, isUpper_toUpper hc, if_pos rfl]
    have hplain : markCapital c = [c] := by
      rw [markCapital, hsmall.isUpper, if_neg Bool.false_ne_true]
    have hlow : '_'.toLower = '_' := rfl
    rw [camelChars_cons hsmall.ne_low, List.flatMap_cons, hplain, List.singleton_append, List.map_cons,
      hsmall.toLower, List.cons.injEq] at ih
    rw [camelChars_append hseg.low_not_mem, camelChars_low_cons hc, List.flatMap_append, List.flatMap_cons,
      hmark, flatMap_markCapital hseg.small, List.map_append, map_toLower hseg.small, List.map_append, ih.2,
      List.map_cons, List.map_singleton, hsmall.toLower_toUpper, hlow]
    rfl

theorem OrdinaryChars.low_not_mem (h : OrdinaryChars cs) : '_' ∉ camelChars cs := by
  induction h with
  | @segment seg hseg =>
    rw [camelChars_of_not_mem hseg.low_not_mem]
    exact hseg.low_not_mem
  | append hseg hcs ih =>
    obtain ⟨c, rest, rfl, hc⟩ := hcs.exists_cons
    have hcapital : '_' ≠ c.toUpper := by
      intro hlow
      have hupper := isUpper_toUpper hc
      rw [← hlow] at hupper
      cases hupper
    rw [camelChars_cons (small_of_isLower hc).ne_low, List.mem_cons, not_or] at ih
    rw [camelChars_append hseg.low_not_mem, camelChars_low_cons hc, List.mem_append, List.mem_cons]
    exact not_or.mpr ⟨hseg.low_not_mem, not_or.mpr ⟨hcapital, ih.2⟩⟩

end Segments

section Ordinary

variable {name other : String}

theorem IsOrdinary.nameChars (h : IsOrdinary name) : NameChars name := by
  intro c hc
  rcases h.small_or c hc with hsmall | rfl
  · exact hsmall.isNameChar
  · rfl

theorem IsOrdinary.lower_of_isCasing (h : IsOrdinary name) {cased : String} (hcased : IsCasing cased name) :
    Text.lower cased = name := by
  have hboth : ∀ c ∈ name.toList, ∀ d, d = c ∨ d = c.toUpper →
      isNameChar d = true ∧ d.toLower = c := by
    intro c hc d hd
    rcases h.small_or c hc with hsmall | rfl
    · rcases hd with rfl | rfl
      · exact ⟨hsmall.isNameChar, hsmall.toLower⟩
      · exact ⟨Text.isNameChar_toUpper hsmall.isNameChar, hsmall.toLower_toUpper⟩
    · rcases hd with rfl | rfl <;> exact ⟨rfl, rfl⟩
  have hnames : NameChars cased := by
    intro d hd
    obtain ⟨c, hc, hdc⟩ := exists_related hcased hd
    exact (hboth c hc d hdc).1
  have hcase : List.Forall₂ (fun c d => d = c ∨ d = c.toUpper) name.toList cased.toList := hcased.flip
  rw [← String.toList_inj, Text.toList_lower hnames, map_related hcase fun c hc d hdc => (hboth c hc d hdc).2,
    List.map_id']

theorem isCasing_self (name : String) : IsCasing name name :=
  List.forall₂_same.mpr fun _ _ => .inl rfl

theorem IsOrdinary.lower (h : IsOrdinary name) : Text.lower name = name :=
  h.lower_of_isCasing (isCasing_self name)

theorem IsOrdinary.accessorStem_eq (h : IsOrdinary name) : accessorStem name = camelCase name := by
  obtain ⟨c, rest, hchars, hc⟩ := h.exists_cons
  have hlead : ['_'].isPrefixOf name.toList = false := by
    rw [hchars, List.isPrefixOf_cons_cons, beq_eq_false_iff_ne.mpr (small_of_isLower hc).ne_low.symm,
      Bool.false_and]
  have hlow : "_".toList = ['_'] := rfl
  rw [accessorStem, h.lower, Text.dropLead, Text.dropLeadChars, hlow, hlead, if_neg Bool.false_ne_true,
    String.ofList_toList]

theorem IsOrdinary.oneofStem_eq (h : IsOrdinary name) :
    oneofStem name = Text.upperFirst (accessorStem name) := by
  rw [oneofStem, h.lower, h.accessorStem_eq]

theorem IsOrdinary.snakeCase_accessorStem (h : IsOrdinary name) : snakeCase (accessorStem name) = name := by
  have hnames : NameChars (String.ofList ((camelChars name.toList).flatMap markCapital)) := by
    rw [Text.nameChars_ofList, List.forall_mem_flatMap]
    intro c hc d hd
    have hcamel := nameChars_camelCase h.nameChars
    rw [camelCase, Text.nameChars_ofList] at hcamel
    unfold markCapital at hd
    split at hd
    · rcases List.mem_cons.mp hd with rfl | hd
      · rfl
      · rw [List.mem_singleton.mp hd]
        exact hcamel c hc
    · rw [List.mem_singleton.mp hd]
      exact hcamel c hc
  rw [h.accessorStem_eq, camelCase, snakeCase, String.toList_ofList, ← String.toList_inj,
    Text.toList_lower hnames, String.toList_ofList]
  exact OrdinaryChars.snake_camel h

theorem IsOrdinary.accessorStem_inj (h : IsOrdinary name) (hother : IsOrdinary other)
    (heq : accessorStem other = accessorStem name) : other = name := by
  rw [← hother.snakeCase_accessorStem, heq, h.snakeCase_accessorStem]

theorem IsOrdinary.lowerFirst_upperFirst (h : IsOrdinary name) :
    Text.lowerFirst (Text.upperFirst (accessorStem name)) = accessorStem name := by
  obtain ⟨c, rest, hchars, hc⟩ := h.exists_cons
  have hsmall := small_of_isLower hc
  have hstem : accessorStem name = String.ofList (c :: camelChars rest) := by
    rw [h.accessorStem_eq, camelCase, hchars, camelChars_cons hsmall.ne_low]
  rw [hstem, Text.upperFirst, String.toList_ofList]
  simp only [Text.upperChar_of_isNameChar hsmall.isNameChar, Text.lowerFirst, List.singleton_append,
    String.toList_ofList, Text.lowerChar_of_isNameChar (Text.isNameChar_toUpper hsmall.isNameChar),
    hsmall.toLower_toUpper]

theorem IsOrdinary.upperFirst_inj (h : IsOrdinary name) (hother : IsOrdinary other)
    (heq : Text.upperFirst (accessorStem other) = Text.upperFirst (accessorStem name)) : other = name := by
  refine h.accessorStem_inj hother ?_
  rw [← hother.lowerFirst_upperFirst, heq, h.lowerFirst_upperFirst]

theorem IsOrdinary.low_not_mem_accessorStem (h : IsOrdinary name) : '_' ∉ (accessorStem name).toList := by
  rw [h.accessorStem_eq, camelCase, String.toList_ofList]
  exact OrdinaryChars.low_not_mem h

/-- Escaped keys have a low line. -/
theorem objectKey_inj {a b : String} (ha : '_' ∉ a.toList) (hb : '_' ∉ b.toList)
    (h : objectKey a = objectKey b) : a = b := by
  have hescaped (x : String) : '_' ∈ ("pb_" ++ x).toList := by simp
  unfold objectKey at h
  split at h <;> split at h
  · exact (String.append_right_inj _).mp h
  · exact absurd (h ▸ hescaped a) hb
  · exact absurd (h ▸ hescaped b) ha
  · exact h

end Ordinary

end Identifier

open Identifier (IsOrdinary accessorStem oneofStem snakeCase)
open Text (IsCasing upperFirst)

namespace Schema

theorem Field.name_inj_of_objectKey {f g : Field} (hf : IsOrdinary f.name) (hg : IsOrdinary g.name)
    (hrepetition : g.repetition = f.repetition) (h : g.objectKey = f.objectKey) : g.name = f.name := by
  have hstem : g.stem = f.stem := by
    unfold objectKey at h
    rw [hrepetition] at h
    cases hr : f.repetition with
    | map => rwa [hr, String.append_left_inj] at h
    | repeated => rwa [hr, String.append_left_inj] at h
    | singular =>
      rw [hr] at h
      exact Identifier.objectKey_inj hg.low_not_mem_accessorStem hf.low_not_mem_accessorStem h
  exact hf.accessorStem_inj hg hstem

theorem Field.objectKey_congr {f g : Field} (hstem : g.stem = f.stem)
    (hrepetition : g.repetition = f.repetition) : g.objectKey = f.objectKey := by
  rw [objectKey, objectKey, hstem, hrepetition]

end Schema

/-- What is made of an ordinary name tells which name it was, and does not depend on the case of its letters. -/
theorem ordinary_names {name : String} (h : IsOrdinary name) :
    snakeCase (accessorStem name) = name ∧
    (∀ other, IsOrdinary other → other ≠ name →
      upperFirst (accessorStem other) ≠ upperFirst (accessorStem name) ∧ oneofStem other ≠ oneofStem name) ∧
    (∀ cased, IsCasing cased name → accessorStem cased = accessorStem name ∧ oneofStem cased = oneofStem name) ∧
    (∀ f g : Schema.Field, f.name = name → g.repetition = f.repetition →
      (IsOrdinary g.name → g.name ≠ name → g.objectKey ≠ f.objectKey) ∧
      (IsCasing g.name name → g.objectKey = f.objectKey)) ∧
    IsCasing (Text.upper name) name ∧
    ∀ index viewer f p dialect, Declaration.Property.link index viewer f = .ok p → f.name = name →
      p.upperStem = upperFirst (accessorStem name) ∧
        ∃ mark, p.objectKey dialect = f.objectKey ++ mark ∧ (mark = "" ∨ mark = "?") := by
  have hcased : ∀ cased, IsCasing cased name →
      accessorStem cased = accessorStem name ∧ oneofStem cased = oneofStem name := by
    intro cased hcased
    have hlower : Text.lower cased = Text.lower name := by rw [h.lower_of_isCasing hcased, h.lower]
    exact ⟨by rw [accessorStem, hlower, accessorStem], by rw [oneofStem, hlower, oneofStem]⟩
  refine ⟨h.snakeCase_accessorStem, ?_, hcased, ?_, Text.isCasing_upper h.nameChars, ?_⟩
  · intro other hother hne
    rw [h.oneofStem_eq, hother.oneofStem_eq, and_self]
    exact fun heq => hne (h.upperFirst_inj hother heq)
  · rintro f g rfl hrepetition
    refine ⟨fun hg hne heq => hne (Schema.Field.name_inj_of_objectKey h hg hrepetition heq), fun hg => ?_⟩
    exact Schema.Field.objectKey_congr (hcased g.name hg).1 hrepetition
  · rintro index viewer f p dialect hlink rfl
    have hstem : p.upperStem = upperFirst (accessorStem f.name) := by
      rcases Declaration.Property.cases_of_link hlink with ⟨-, key, value, rfl⟩ | ⟨-, t, -, rfl⟩ <;> rfl
    obtain ⟨mark, hkey, hmark⟩ := Declaration.Property.objectKey_of_link dialect hlink
    exact ⟨hstem, mark, hkey, hmark.imp id And.left⟩

/-- The key of `class` is escaped to `pb_class`, and the key of `pb_class` is another one. -/
theorem class_names :
    IsOrdinary "class" ∧ IsOrdinary "pb_class" ∧ IsCasing "CLASS" "class" ∧
      snakeCase (accessorStem "class") = "class" ∧
      upperFirst (accessorStem "pb_class") ≠ upperFirst (accessorStem "class") ∧
      oneofStem "CLASS" = oneofStem "class" ∧
      (∀ f g : Schema.Field, f.name = "class" → g.name = "pb_class" → g.repetition = f.repetition →
        g.objectKey ≠ f.objectKey) ∧
      Schema.Field.objectKey { name := "class", number := 1, type := .bool } = "pb_class" := by
  have hclass : IsOrdinary "class" := by decide
  have hother : IsOrdinary "pb_class" := by decide
  have hne : "pb_class" ≠ "class" := by simp
  have hcased : IsCasing "CLASS" "class" := by decide
  obtain ⟨hback, hdiffer, hcasing, hkeys, -, -⟩ := ordinary_names hclass
  refine ⟨hclass, hother, hcased, hback, (hdiffer _ hother hne).1, (hcasing _ hcased).2, ?_, rfl⟩
  intro f g hf hg hrepetition
  exact (hkeys f g hf hrepetition).1 (hg ▸ hother) (hg ▸ hne)

-- A segment that begins with a digit keeps no trace of the low line before it.
example : accessorStem "a_1" = accessorStem "a1" := by decide +kernel

end ProtoStubs
