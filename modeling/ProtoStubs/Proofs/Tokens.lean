import ProtoStubs.Proofs.Names

/-!
# The tokens of a line

A line is read as a list of tokens: the longest runs of token characters, and every other character by itself,
without the blanks. A pattern is a line in which `$` stands in the place of a token. A line that is put
together of texts and tokens has the tokens of its texts and these tokens, if no text goes on with a token
character where a token begins or ends.
-/

namespace ProtoStubs.Text

/-- The characters of names, of references to what a module holds, and of paths. -/
def isTokenChar (c : Char) : Bool := isNameChar c || c == '.' || c == '/' || c == '-' || c == '@'

def tokenChars : List Char → List (List Char)
  | [] => []
  | c :: cs =>
    if c = ' ' then tokenChars cs
    else if isTokenChar c && cs.head?.any isTokenChar then (tokenChars cs).modifyHead (c :: ·)
    else [c] :: tokenChars cs

def tokens (s : String) : List String := (tokenChars s.toList).map String.ofList

/-- The tokens in the places that a pattern leaves open, if all its other tokens are there. -/
def capture : List String → List String → Option (List String)
  | [], [] => some []
  | p :: pattern, w :: ws =>
    if p = "$" then (capture pattern ws).map (w :: ·) else if p = w then capture pattern ws else none
  | _, _ => none

def captures (pattern line : String) : Option (List String) := capture (tokens pattern) (tokens line)

def TokenChars (s : String) : Prop := ∀ c ∈ s.toList, isTokenChar c = true

def IsToken (s : String) : Prop := s ≠ "" ∧ TokenChars s

/-- What follows the text does not go on with a token of it. -/
def Closes (s : String) : Prop := s.toList.getLast?.any (fun c => !isTokenChar c) = true

/-- The text does not go on with a token before it. -/
def Opens (s : String) : Prop := s.toList.head?.any (fun c => !isTokenChar c) = true

instance (s : String) : Decidable (TokenChars s) := List.decidableBAll _ _

instance (s : String) : Decidable (IsToken s) := inferInstanceAs (Decidable (_ ∧ _))

instance (s : String) : Decidable (Closes s) := inferInstanceAs (Decidable (_ = _))

instance (s : String) : Decidable (Opens s) := inferInstanceAs (Decidable (_ = _))

theorem isTokenChar_of_isNameChar {c : Char} (h : isNameChar c = true) : isTokenChar c = true := by
  simp [isTokenChar, h]

theorem tokenChars_ne_nil {c : Char} (cs : List Char) (hc : isTokenChar c = true) :
    tokenChars (c :: cs) ≠ [] := by
  have hblank : c ≠ ' ' := by
    rintro rfl
    exact absurd hc (by decide)
  induction cs generalizing c with
  | nil => simp [tokenChars, hblank]
  | cons d cs ih =>
    rw [tokenChars, if_neg hblank]
    split
    · rename_i hboth
      have hd : isTokenChar d = true := by simpa using (Bool.and_eq_true_iff.mp hboth).2
      have hne := ih hd (by rintro rfl; exact absurd hd (by decide))
      cases htokens : tokenChars (d :: cs) with
      | nil => exact absurd htokens hne
      | cons w ws => simp
    · simp

theorem tokenChars_append {xs ys : List Char}
    (h : (xs.getLast?.any isTokenChar && ys.head?.any isTokenChar) = false) :
    tokenChars (xs ++ ys) = tokenChars xs ++ tokenChars ys := by
  induction xs with
  | nil => rfl
  | cons c cs ih =>
    cases cs with
    | nil =>
      have hjoin : (isTokenChar c && ys.head?.any isTokenChar) = false := by simpa using h
      by_cases hblank : c = ' ' <;> simp [tokenChars, hblank, hjoin]
    | cons d cs =>
      have ih := ih (by simpa using h)
      have hhead : ((d :: cs) ++ ys).head? = (d :: cs).head? := rfl
      rw [List.cons_append, tokenChars, tokenChars, ih, hhead]
      split
      · rfl
      · split
        · rename_i hboth
          have hd : isTokenChar d = true := by simpa using (Bool.and_eq_true_iff.mp hboth).2
          cases htokens : tokenChars (d :: cs) with
          | nil => exact absurd htokens (tokenChars_ne_nil cs hd)
          | cons w ws => rfl
        · rfl

theorem tokenChars_of_all {cs : List Char} (hne : cs ≠ []) (h : ∀ c ∈ cs, isTokenChar c = true) :
    tokenChars cs = [cs] := by
  induction cs with
  | nil => exact absurd rfl hne
  | cons c cs ih =>
    rw [List.forall_mem_cons] at h
    have hblank : c ≠ ' ' := by
      rintro rfl
      exact absurd h.1 (by decide)
    cases cs with
    | nil => simp [tokenChars, hblank]
    | cons d cs =>
      have hd : isTokenChar d = true := h.2 d List.mem_cons_self
      rw [tokenChars, if_neg hblank, ih (List.cons_ne_nil d cs) h.2]
      simp [h.1, hd]

theorem mem_of_mem_tokenChars {cs t : List Char} (ht : t ∈ tokenChars cs) : ∀ c ∈ t, c ∈ cs := by
  induction cs generalizing t with
  | nil => cases ht
  | cons d cs ih =>
    intro c hc
    rw [tokenChars] at ht
    split at ht
    · exact List.mem_cons_of_mem _ (ih ht c hc)
    · split at ht
      · cases htokens : tokenChars cs with
        | nil => simp [htokens] at ht
        | cons first later =>
          rw [htokens, List.modifyHead_cons, List.mem_cons] at ht
          rcases ht with rfl | ht
          · rcases List.mem_cons.mp hc with rfl | hc
            · exact List.mem_cons_self
            · exact List.mem_cons_of_mem _ (ih (htokens ▸ List.mem_cons_self) c hc)
          · exact List.mem_cons_of_mem _ (ih (htokens ▸ List.mem_cons_of_mem _ ht) c hc)
      · rcases List.mem_cons.mp ht with rfl | ht
        · rw [List.mem_singleton.mp hc]
          exact List.mem_cons_self
        · exact List.mem_cons_of_mem _ (ih ht c hc)

section Tokens

variable {s t w : String} {a b c : List Char}

-- A literal is the text of its characters, and the tokens of these are found faster than those of the literal.
theorem tokens_ofList {ts : List String} (h : (tokenChars a).map String.ofList = ts) :
    tokens (String.ofList a) = ts := by
  rw [← h, tokens, String.toList_ofList]

theorem closes_ofList (h : a.getLast?.any (fun c => !isTokenChar c) = true) : Closes (String.ofList a) := by
  rw [Closes, String.toList_ofList]
  exact h

theorem opens_ofList (h : a.head?.any (fun c => !isTokenChar c) = true) : Opens (String.ofList a) := by
  rw [Opens, String.toList_ofList]
  exact h

theorem IsToken.tokens (h : IsToken w) : tokens w = [w] := by
  rw [Text.tokens, tokenChars_of_all (mt String.toList_eq_nil_iff.mp h.1) h.2]
  simp

theorem tokens_append_of_closes (h : Closes s) (t : String) : tokens (s ++ t) = tokens s ++ tokens t := by
  have hlast : s.toList.getLast?.any isTokenChar = false := by
    unfold Closes at h
    cases hlast : s.toList.getLast? with
    | none => rfl
    | some c => simpa [hlast] using h
  rw [tokens, String.toList_append, tokenChars_append (by rw [hlast, Bool.false_and]), List.map_append]
  rfl

theorem tokens_append_of_opens (s : String) (h : Opens t) : tokens (s ++ t) = tokens s ++ tokens t := by
  have hhead : t.toList.head?.any isTokenChar = false := by
    unfold Opens at h
    cases hhead : t.toList.head? with
    | none => rfl
    | some c => simpa [hhead] using h
  rw [tokens, String.toList_append, tokenChars_append (by rw [hhead, Bool.and_false]), List.map_append]
  rfl

theorem Closes.append (h : Closes t) (s : String) : Closes (s ++ t) := by
  unfold Closes at h ⊢
  cases hlast : t.toList.getLast? with
  | none => rw [hlast] at h; cases h
  | some c =>
    rw [hlast] at h
    rw [String.toList_append, List.getLast?_append, hlast]
    exact h

theorem tokens_token_append (hw : IsToken w) (ht : Opens t) : tokens (w ++ t) = w :: tokens t := by
  rw [tokens_append_of_opens w ht, hw.tokens]
  rfl

theorem tokens_insert (hs : Closes s) (hw : IsToken w) (ht : Opens t) :
    tokens (s ++ w ++ t) = tokens s ++ w :: tokens t := by
  rw [tokens_append_of_opens _ ht, tokens_append_of_closes hs, hw.tokens, List.append_assoc]
  rfl

theorem tokens_frame {ts us : List String} (hw : IsToken w)
    (ha : (tokenChars a).map String.ofList = ts) (hb : (tokenChars b).map String.ofList = us)
    (h : (a.getLast?.any (fun c => !isTokenChar c) && b.head?.any fun c => !isTokenChar c) = true) :
    tokens (String.ofList a ++ w ++ String.ofList b) = ts ++ w :: us := by
  rw [Bool.and_eq_true] at h
  rw [tokens_insert (closes_ofList h.1) hw (opens_ofList h.2), tokens_ofList ha, tokens_ofList hb]

theorem IsToken.append (hs : IsToken s) (ht : TokenChars t) : IsToken (s ++ t) := by
  refine ⟨?_, ?_⟩
  · simp [hs.1]
  · simpa [TokenChars, or_imp, forall_and] using ⟨hs.2, ht⟩

theorem NameChars.isToken (h : NameChars s) (hne : s ≠ "") : IsToken s :=
  ⟨hne, fun c hc => isTokenChar_of_isNameChar (h c hc)⟩

theorem head?_tokens_append (hs : Closes s) (h : (tokens s).head? = some w) (t : String) :
    (tokens (s ++ t)).head? = some w := by
  rw [tokens_append_of_closes hs, List.head?_append, h]
  rfl

theorem IsToken.ne (h : IsToken w) (ha : a.all isTokenChar = false) : w ≠ String.ofList a := by
  rintro rfl
  have hall : ∀ c ∈ (String.ofList a).toList, isTokenChar c = true := h.2
  rw [String.toList_ofList] at hall
  rw [List.all_eq_true.mpr hall] at ha
  cases ha

theorem IsToken.not_mem_newline (h : IsToken w) : '\n' ∉ w.toList := by
  intro hmem
  exact absurd (h.2 _ hmem) (by decide)

end Tokens

section Patterns

variable {pattern w v : String} {a b c : List Char}

theorem capture_append {ps qs us vs : List String} {found : List String}
    (h : capture ps us = some found) :
    capture (ps ++ qs) (us ++ vs) = (capture qs vs).map (found ++ ·) := by
  fun_induction capture ps us generalizing found with
  | case1 => cases h; simp
  | case2 pattern w ws ih =>
    obtain ⟨later, hlater, rfl⟩ := Option.map_eq_some_iff.mp h
    rw [List.cons_append, List.cons_append, capture, if_pos rfl, ih hlater, Option.map_map]
    rfl
  | case3 pattern w ws hp ih =>
    rw [List.cons_append, List.cons_append, capture, if_neg hp, if_pos rfl, ih h]
  | case4 p pattern w ws hp hne => cases h
  | case5 => cases h

theorem capture_self {ts : List String} (h : "$" ∉ ts) : capture ts ts = some [] := by
  induction ts with
  | nil => rfl
  | cons t ts ih =>
    rw [List.mem_cons, not_or] at h
    rw [capture, if_neg (Ne.symm h.1), if_pos rfl, ih h.2]

theorem dollar_not_mem_tokens (h : '$' ∉ a) : "$" ∉ tokens (String.ofList a) := by
  intro hmem
  rw [tokens, String.toList_ofList] at hmem
  obtain ⟨t, ht, heq⟩ := List.mem_map.mp hmem
  have hchars : t = ['$'] := by simpa using congrArg String.toList heq
  exact h (mem_of_mem_tokenChars ht '$' (by simp [hchars]))

def joins (a b : List Char) : Bool :=
  a.getLast?.any (fun c => !isTokenChar c) && b.head?.any (fun c => !isTokenChar c) &&
    !a.contains '$' && !b.contains '$'

theorem captures_append {line : String} {found : List String} (h : captures pattern line = some found)
    (hpattern : Closes pattern) (hline : Closes line) (hw : IsToken w)
    (hb : b.head?.any (fun c => !isTokenChar c) = true) (hdollar : '$' ∉ b) :
    captures (pattern ++ "$" ++ String.ofList b) (line ++ w ++ String.ofList b) = some (found ++ [w]) := by
  have hopen : tokens (pattern ++ "$" ++ String.ofList b) =
      tokens pattern ++ (["$"] ++ tokens (String.ofList b)) := by
    rw [tokens_append_of_opens _ (opens_ofList hb), tokens_append_of_closes hpattern, List.append_assoc]
    rfl
  rw [captures, tokens_insert hline hw (opens_ofList hb), hopen, capture_append h,
    List.singleton_append, capture, if_pos rfl, capture_self (dollar_not_mem_tokens hdollar)]
  rfl

theorem captures_one (hw : IsToken w) (hpattern : pattern = String.ofList (a ++ '$' :: b))
    (h : joins a b = true) : captures pattern (String.ofList a ++ w ++ String.ofList b) = some [w] := by
  have hopen : pattern = String.ofList a ++ "$" ++ String.ofList b := by
    rw [hpattern, ← String.toList_inj]
    simp
  simp only [joins, Bool.and_eq_true, Bool.not_eq_true', List.contains_eq_mem,
    decide_eq_false_iff_not] at h
  obtain ⟨⟨⟨hcloses, hopens⟩, hda⟩, hdb⟩ := h
  have hself : captures (String.ofList a) (String.ofList a) = some [] :=
    capture_self (dollar_not_mem_tokens hda)
  rw [hopen]
  exact captures_append hself (closes_ofList hcloses) (closes_ofList hcloses) hw hopens hdb

theorem captures_two (hw : IsToken w) (hv : IsToken v)
    (hpattern : pattern = String.ofList (a ++ '$' :: (b ++ '$' :: c))) (h : joins a b = true)
    (h' : joins b c = true) :
    captures pattern (String.ofList a ++ w ++ String.ofList b ++ v ++ String.ofList c) = some [w, v] := by
  have hopen : pattern = String.ofList (a ++ '$' :: b) ++ "$" ++ String.ofList c := by
    rw [hpattern, ← String.toList_inj]
    simp
  have hclose : String.ofList (a ++ '$' :: b) = String.ofList (a ++ ['$']) ++ String.ofList b := by
    rw [← String.toList_inj]
    simp
  have hfirst := captures_one hw rfl h
  simp only [joins, Bool.and_eq_true, Bool.not_eq_true', List.contains_eq_mem,
    decide_eq_false_iff_not] at h'
  obtain ⟨⟨⟨hcloses, hopens⟩, -⟩, hdc⟩ := h'
  rw [hopen]
  refine captures_append hfirst ?_ (.append (closes_ofList hcloses) _) hv hopens hdc
  rw [hclose]
  exact .append (closes_ofList hcloses) _

end Patterns

end ProtoStubs.Text
