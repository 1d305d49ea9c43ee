/-! Cutting a text at a separator. -/

namespace ProtoStubs.Text

/-- The pieces between the separators: one more than there are separators, and none holds one. -/
def splitChars (sep : Char) : List Char → List (List Char)
  | [] => [[]]
  | c :: rest =>
    if c = sep then [] :: splitChars sep rest else (splitChars sep rest).modifyHead (c :: ·)

theorem exists_splitChars (sep : Char) (cs : List Char) :
    ∃ first parts, splitChars sep cs = first :: parts := by
  cases cs with
  | nil => exact ⟨[], [], rfl⟩
  | cons c cs =>
    obtain ⟨first, parts, h⟩ := exists_splitChars sep cs
    by_cases hc : c = sep
    · exact ⟨[], first :: parts, by rw [splitChars, if_pos hc, h]⟩
    · exact ⟨c :: first, parts, by rw [splitChars, if_neg hc, h]; rfl⟩

theorem mem_splitChars (sep : Char) {c : Char} {cs : List Char} (hc : c ∈ cs) :
    c = sep ∨ ∃ part ∈ splitChars sep cs, c ∈ part := by
  induction cs with
  | nil => cases hc
  | cons d cs ih =>
    obtain ⟨first, parts, hsplit⟩ := exists_splitChars sep cs
    rw [splitChars]
    by_cases hd : d = sep
    · rw [if_pos hd]
      rcases List.mem_cons.mp hc with hcd | hc
      · exact Or.inl (hcd.trans hd)
      · rcases ih hc with hsep | ⟨part, hpart, hmem⟩
        · exact Or.inl hsep
        · exact Or.inr ⟨part, List.mem_cons_of_mem _ hpart, hmem⟩
    · rw [if_neg hd, hsplit, List.modifyHead_cons]
      rw [hsplit] at ih
      rcases List.mem_cons.mp hc with hcd | hc
      · exact Or.inr ⟨d :: first, List.mem_cons_self, hcd ▸ List.mem_cons_self⟩
      · rcases ih hc with hsep | ⟨part, hpart, hmem⟩
        · exact Or.inl hsep
        · rcases List.mem_cons.mp hpart with hfirst | hpart
          · exact Or.inr ⟨d :: first, List.mem_cons_self, List.mem_cons_of_mem _ (hfirst ▸ hmem)⟩
          · exact Or.inr ⟨part, List.mem_cons_of_mem _ hpart, hmem⟩

theorem splitChars_append {sep : Char} {cs rest : List Char} (h : sep ∉ cs) :
    splitChars sep (cs ++ sep :: rest) = cs :: splitChars sep rest := by
  induction cs with
  | nil => rw [List.nil_append, splitChars, if_pos rfl]
  | cons c cs ih =>
    rw [List.mem_cons, not_or] at h
    rw [List.cons_append, splitChars, if_neg (Ne.symm h.1), ih h.2]
    rfl

theorem splitChars_of_not_mem {sep : Char} {cs : List Char} (h : sep ∉ cs) :
    splitChars sep cs = [cs] := by
  induction cs with
  | nil => rfl
  | cons c cs ih =>
    rw [List.mem_cons, not_or] at h
    rw [splitChars, if_neg (Ne.symm h.1), ih h.2]
    rfl

end ProtoStubs.Text
