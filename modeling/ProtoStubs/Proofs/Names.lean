import ProtoStubs.Identifier
import ProtoStubs.SourcePath
import ProtoStubs.Proofs.Success

/-!
# Names in generated text

The characters of a name are letters, digits and low lines. Everything that is made of a name by changing
its case has such characters again. A text is flat if it neither opens nor closes a block nor ends its line.
-/

namespace ProtoStubs.Text

def isNameChar (c : Char) : Bool := c.isAlphanum || c == '_'

def NameChars (s : String) : Prop := ∀ c ∈ s.toList, isNameChar c = true

def isFlatChar (c : Char) : Bool := c != '\x7b' && c != '\x7d' && c != '\n'

def Flat (s : String) : Prop := ∀ c ∈ s.toList, isFlatChar c = true

instance (s : String) : Decidable (NameChars s) := List.decidableBAll _ _

instance (s : String) : Decidable (Flat s) := List.decidableBAll _ _

theorem toNat_lt_of_isNameChar {c : Char} (h : isNameChar c = true) : c.toNat < 128 := by
  have hcases : (c.isUpper || c.isLower || c.isDigit || c == '_') = true := h
  rw [Bool.or_eq_true, Bool.or_eq_true, Bool.or_eq_true] at hcases
  rcases hcases with ((hupper | hlower) | hdigit) | hlow
  · have hle : c.val ≤ 'Z'.val := (of_decide_eq_true hupper).2
    exact Nat.lt_of_le_of_lt (UInt32.le_iff_toNat_le.mp hle) (by decide)
  · have hboth : ('a'.val ≤ c.val && c.val ≤ 'z'.val) = true := hlower
    rw [Bool.and_eq_true] at hboth
    have hle : c.val ≤ 'z'.val := of_decide_eq_true hboth.2
    exact Nat.lt_of_le_of_lt (UInt32.le_iff_toNat_le.mp hle) (by decide)
  · exact Nat.lt_of_le_of_lt (Char.isDigit_iff_toNat.mp hdigit).2 (by decide)
  · rw [beq_iff_eq.mp hlow]
    decide

theorem forall_isNameChar {P : Char → Prop}
    (h : ∀ n < 128, isNameChar (Char.ofNat n) = true → P (Char.ofNat n)) {c : Char}
    (hc : isNameChar c = true) : P c := by
  rw [← Char.ofNat_toNat c] at hc ⊢
  exact h _ (toNat_lt_of_isNameChar (by rw [← Char.ofNat_toNat c]; exact hc)) hc

theorem isNameChar_toUpper {c : Char} (hc : isNameChar c = true) : isNameChar c.toUpper = true :=
  forall_isNameChar (P := fun c => isNameChar c.toUpper = true) (by decide) hc

theorem isNameChar_toLower {c : Char} (hc : isNameChar c = true) : isNameChar c.toLower = true :=
  forall_isNameChar (P := fun c => isNameChar c.toLower = true) (by decide) hc

theorem isFlatChar_of_isNameChar {c : Char} (hc : isNameChar c = true) : isFlatChar c = true :=
  forall_isNameChar (P := fun c => isFlatChar c = true) (by decide) hc

theorem isNameChar_upperChar {c : Char} (hc : isNameChar c = true) :
    ∀ d ∈ upperChar c, isNameChar d = true := by
  rw [upperChar, if_pos (toNat_lt_of_isNameChar hc)]
  simpa using isNameChar_toUpper hc

theorem isNameChar_lowerChar {c : Char} (hc : isNameChar c = true) :
    ∀ d ∈ lowerChar c, isNameChar d = true := by
  rw [lowerChar, if_pos (toNat_lt_of_isNameChar hc)]
  simpa using isNameChar_toLower hc

theorem nameChars_ofList {cs : List Char} :
    NameChars (String.ofList cs) ↔ ∀ c ∈ cs, isNameChar c = true := by
  rw [NameChars, String.toList_ofList]

theorem nameChars_append {s t : String} : NameChars (s ++ t) ↔ NameChars s ∧ NameChars t := by
  simp [NameChars, or_imp, forall_and]

theorem NameChars.upper {s : String} (h : NameChars s) : NameChars (upper s) := by
  rw [Text.upper, nameChars_ofList]
  intro d hd
  obtain ⟨c, hc, hd⟩ := List.mem_flatMap.mp hd
  exact isNameChar_upperChar (h c hc) d hd

theorem isNameChar_lowerBetween {before after : List Char} {c : Char} (hc : isNameChar c = true) :
    ∀ d ∈ lowerBetween before c after, isNameChar d = true := by
  have hsigma : (c == 'Σ') = false :=
    forall_isNameChar (P := fun c => (c == 'Σ') = false) (by decide) hc
  rw [lowerBetween, hsigma, Bool.false_and, if_neg Bool.false_ne_true]
  exact isNameChar_lowerChar hc

theorem NameChars.lower {s : String} (h : NameChars s) : NameChars (lower s) := by
  have hafter : ∀ (before cs : List Char), (∀ c ∈ cs, isNameChar c = true) →
      ∀ d ∈ lowerAfter before cs, isNameChar d = true := by
    intro before cs
    induction cs generalizing before with
    | nil => simp [lowerAfter]
    | cons c cs ih =>
      intro hcs d hd
      rw [lowerAfter, List.mem_append] at hd
      rcases hd with hd | hd
      · exact isNameChar_lowerBetween (hcs c List.mem_cons_self) d hd
      · exact ih _ (fun c' hc' => hcs c' (List.mem_cons_of_mem _ hc')) d hd
  rw [Text.lower, nameChars_ofList]
  exact hafter [] s.toList h

theorem NameChars.upperFirst {s : String} (h : NameChars s) : NameChars (upperFirst s) := by
  unfold Text.upperFirst
  split
  · decide
  · rename_i c rest hs
    rw [NameChars, hs, List.forall_mem_cons] at h
    rw [nameChars_ofList, List.forall_mem_append]
    exact ⟨isNameChar_upperChar h.1, h.2⟩

theorem NameChars.dropLead {lead s : String} (h : NameChars s) : NameChars (dropLead lead s) := by
  rw [Text.dropLead, nameChars_ofList, dropLeadChars]
  split
  · intro c hc
    exact h c (List.mem_of_mem_drop hc)
  · exact h

theorem flat_ofList {cs : List Char} : Flat (String.ofList cs) ↔ ∀ c ∈ cs, isFlatChar c = true := by
  rw [Flat, String.toList_ofList]

theorem flat_append {s t : String} : Flat (s ++ t) ↔ Flat s ∧ Flat t := by
  simp [Flat, or_imp, forall_and]

theorem Flat.append {s t : String} (hs : Flat s) (ht : Flat t) : Flat (s ++ t) :=
  flat_append.mpr ⟨hs, ht⟩

-- A literal is the text of its characters, and these are decided faster than those of the literal.
theorem flat_of_all {cs : List Char} (h : cs.all isFlatChar = true) : Flat (String.ofList cs) :=
  flat_ofList.mpr (List.all_eq_true.mp h)

theorem Flat.append_ofList {s : String} {cs : List Char} (hs : Flat s)
    (hcs : cs.all isFlatChar = true) : Flat (s ++ String.ofList cs) := hs.append (flat_of_all hcs)

theorem Flat.ofList_append {s : String} {cs : List Char} (hs : Flat s)
    (hcs : cs.all isFlatChar = true) : Flat (String.ofList cs ++ s) := (flat_of_all hcs).append hs

theorem flat_join {ss : List String} : Flat (String.join ss) ↔ ∀ s ∈ ss, Flat s := by
  induction ss with
  | nil => simp [Flat]
  | cons s ss ih => rw [String.join_cons, flat_append, ih, List.forall_mem_cons]

theorem NameChars.flat {s : String} (h : NameChars s) : Flat s := by
  intro c hc
  exact isFlatChar_of_isNameChar (h c hc)

theorem Flat.not_mem_newline {s : String} (h : Flat s) : '\n' ∉ s.toList := by
  intro hmem
  exact absurd (h _ hmem) (by decide)

theorem nameChars_toString_nat (n : Nat) : NameChars (toString n) := by
  intro c hc
  have hdigit : c.isDigit = true := by
    rw [Nat.toString_eq_repr, Nat.toList_repr] at hc
    exact Nat.isDigit_of_mem_toDigits (by decide) (by decide) hc
  have hname : isNameChar c = (c.isAlpha || c.isDigit || c == '_') := rfl
  rw [hname, hdigit, Bool.or_true, Bool.true_or]

theorem flat_toString_int (n : Int) : Flat (toString n) := by
  rw [Int.toString_eq_repr, Int.repr_eq_if]
  split
  · exact (nameChars_toString_nat _).flat
  · exact flat_append.mpr ⟨by decide, (nameChars_toString_nat _).flat⟩

end ProtoStubs.Text

namespace ProtoStubs.Identifier

open Text (NameChars isNameChar nameChars_ofList nameChars_append)

theorem nameChars_camelCase {s : String} (h : NameChars s) : NameChars (camelCase s) := by
  have hchars : ∀ cs : List Char, (∀ c ∈ cs, isNameChar c = true) →
      ∀ d ∈ camelChars cs, isNameChar d = true := by
    intro cs
    fun_induction camelChars cs with
    | case1 c rest hword ih =>
      intro hcs
      simp only [List.forall_mem_cons] at hcs
      rw [List.forall_mem_append]
      exact ⟨Text.isNameChar_upperChar hcs.2.1, ih hcs.2.2⟩
    | case2 c rest hword ih =>
      intro hcs
      rw [List.forall_mem_cons] at hcs ⊢
      exact ⟨hcs.1, ih hcs.2⟩
    | case3 c rest hlow ih =>
      intro hcs
      rw [List.forall_mem_cons] at hcs ⊢
      exact ⟨hcs.1, ih hcs.2⟩
    | case4 => simp
  rw [camelCase, nameChars_ofList]
  exact hchars s.toList h

theorem nameChars_oneofStem {s : String} (h : NameChars s) : NameChars (oneofStem s) :=
  (nameChars_camelCase h.lower).upperFirst

theorem nameChars_accessorStem {s : String} (h : NameChars s) : NameChars (accessorStem s) :=
  nameChars_camelCase h.lower.dropLead

theorem nameChars_objectKey {s : String} (h : NameChars s) : NameChars (objectKey s) := by
  unfold objectKey
  split
  · exact nameChars_append.mpr ⟨by decide, h⟩
  · exact h

theorem mem_withinPackage {pkg fullName : String} {c : Char} (h : c ∈ (withinPackage pkg fullName).toList) :
    c ∈ fullName.toList := by
  unfold withinPackage at h
  split at h
  · exact h
  · rw [String.toList_ofList] at h
    exact List.mem_of_mem_drop h

theorem flat_withinPackage {pkg fullName : String} (h : Text.Flat fullName) :
    Text.Flat (withinPackage pkg fullName) := fun c hc => h c (mem_withinPackage hc)

end ProtoStubs.Identifier

namespace ProtoStubs.SourcePath

open Text (Flat flat_append flat_ofList)

theorem flat_stem {path : String} (h : Flat path) : Flat (stem path) := by
  rw [stem, Text.dropTail, flat_ofList, Text.dropTailChars]
  split
  · intro c hc
    exact h c (List.mem_of_mem_take hc)
  · exact h

theorem flat_namespaceName {path : String} (h : Flat path) : Flat (namespaceName path) := by
  rw [namespaceName, flat_append, flat_ofList]
  refine ⟨?_, by decide⟩
  intro c hc
  obtain ⟨d, hd, rfl⟩ := List.mem_map.mp hc
  unfold flattenChar
  split
  · decide
  · exact flat_stem h d hd

theorem flat_modulePath {path : String} (h : Flat path) : Flat (modulePath path) := by
  unfold modulePath
  split
  · exact flat_append.mpr ⟨flat_stem h, by decide⟩
  · exact h

theorem flat_toRoot (path : String) : Flat (toRoot path) := by
  unfold toRoot
  split
  · decide
  · rw [flat_ofList]
    intro c hc
    obtain ⟨step, hstep, hc⟩ := List.mem_flatten.mp hc
    have hflat : ['.', '.', '/'].all Text.isFlatChar = true := by decide
    rw [List.eq_of_mem_replicate hstep] at hc
    exact List.all_eq_true.mp hflat c hc

theorem flat_importPath (viewer : String) {target : String} (h : Flat target) :
    Flat (importPath viewer target) := by
  unfold importPath
  split
  · exact flat_append.mpr ⟨by decide, flat_modulePath h⟩
  · exact flat_append.mpr ⟨flat_toRoot viewer, flat_modulePath h⟩

end ProtoStubs.SourcePath
