import ProtoStubs.Layout
import ProtoStubs.Proofs.Tokens

/-!
# Brackets

A text is scanned from the left, and the brackets that are still open are kept as the list of those that will
close them, the innermost first. A text turns one such list into another, and it is well bracketed if it
turns the empty list into itself. What a text does to the brackets that it opens itself it does inside any
others as well, so well-bracketed texts can stand in each other's places.
-/

namespace ProtoStubs

namespace Text

def closing? : Char → Option Char
  | '(' => some ')'
  | '[' => some ']'
  | '\x7b' => some '\x7d'
  | _ => none

def isClosing (c : Char) : Bool := c == ')' || c == ']' || c == '\x7d'

/-- The brackets awaited after a character. None may close that is not awaited next. -/
def readBracket (awaited : List Char) (c : Char) : Option (List Char) :=
  match closing? c with
  | some close => some (close :: awaited)
  | none =>
    if isClosing c then if awaited.head? = some c then some awaited.tail else none
    else some awaited

def readBrackets (awaited : List Char) : List Char → Option (List Char)
  | [] => some awaited
  | c :: cs => (readBracket awaited c).bind fun later => readBrackets later cs

/-- The text turns the brackets awaited before it into those awaited after it. -/
def Turns (before : List Char) (s : String) (after : List Char) : Prop :=
  readBrackets before s.toList = some after

/-- Each bracket of the text closes the one opened last, and in the end none is open. -/
def WellBracketed (s : String) : Prop := Turns [] s []

theorem readBrackets_append (awaited xs ys : List Char) :
    readBrackets awaited (xs ++ ys) =
      (readBrackets awaited xs).bind fun later => readBrackets later ys := by
  induction xs generalizing awaited with
  | nil => rfl
  | cons c cs ih =>
    rw [List.cons_append, readBrackets, readBrackets]
    cases readBracket awaited c with
    | none => rfl
    | some later => exact ih later

/-- A character does the same inside further brackets. -/
theorem readBracket_frame {before after : List Char} {c : Char} (h : readBracket before c = some after)
    (outer : List Char) : readBracket (before ++ outer) c = some (after ++ outer) := by
  unfold readBracket at h ⊢
  cases hopen : closing? c with
  | some close =>
    rw [hopen] at h
    cases h
    rfl
  | none =>
    rw [hopen] at h
    by_cases hclose : isClosing c
    · simp only [if_pos hclose] at h ⊢
      cases before with
      | nil => simp at h
      | cons awaited before =>
        by_cases hc : awaited = c
        · simp only [List.head?_cons, hc, if_true, List.tail_cons, Option.some.injEq] at h
          simp [hc, h]
        · simp [hc] at h
    · simp only [if_neg hclose, Option.some.injEq] at h ⊢
      rw [h]

theorem readBrackets_frame {before after cs : List Char} (h : readBrackets before cs = some after)
    (outer : List Char) : readBrackets (before ++ outer) cs = some (after ++ outer) := by
  induction cs generalizing before with
  | nil =>
    cases h
    rfl
  | cons c cs ih =>
    rw [readBrackets] at h ⊢
    obtain ⟨later, hc, h⟩ := Option.bind_eq_some_iff.mp h
    rw [readBracket_frame hc outer]
    exact ih h

section Turns

variable {s t : String} {a b c : List Char}

-- A literal is the text of its characters, and these are read faster than those of the literal.
theorem turns_ofList {cs : List Char} (h : readBrackets a cs = some b) : Turns a (String.ofList cs) b := by
  rw [Turns, String.toList_ofList]
  exact h

theorem Turns.append (hs : Turns a s b) (ht : Turns b t c) : Turns a (s ++ t) c := by
  rw [Turns, String.toList_append, readBrackets_append, hs]
  exact ht

theorem turns_append_iff : Turns a (s ++ t) c ↔ ∃ b, Turns a s b ∧ Turns b t c := by
  rw [Turns, String.toList_append, readBrackets_append, Option.bind_eq_some_iff]
  rfl

theorem Turns.frame (h : Turns a s b) (outer : List Char) : Turns (a ++ outer) s (b ++ outer) :=
  readBrackets_frame h outer

theorem WellBracketed.inside (h : WellBracketed s) (outer : List Char) : Turns outer s outer :=
  h.frame outer

theorem Turns.insert (hs : Turns a s b) (ht : WellBracketed t) : Turns a (s ++ t) b :=
  hs.append (ht.inside b)

theorem Turns.text (hs : Turns a s b) {cs : List Char} (h : readBrackets b cs = some c) :
    Turns a (s ++ String.ofList cs) c := hs.append (turns_ofList h)

theorem turns_between (hs : WellBracketed s) {xs ys : List Char} (hxs : readBrackets a xs = some b)
    (hys : readBrackets b ys = some c) : Turns a (String.ofList xs ++ s ++ String.ofList ys) c :=
  ((turns_ofList hxs).insert hs).text hys

theorem turns_of_forall (h : ∀ c ∈ s.toList, isTokenChar c = true ∨ c = ' ' ∨ c = '\n') (a : List Char) :
    Turns a s a := by
  unfold Turns
  generalize s.toList = cs at h
  induction cs with
  | nil => rfl
  | cons c cs ih =>
    rw [List.forall_mem_cons] at h
    have hopen : closing? c = none := by
      unfold closing?
      split
      case h_4 => rfl
      all_goals exact absurd h.1 (by decide)
    have hclose : isClosing c = false := by
      rw [Bool.eq_false_iff]
      intro hc
      simp only [isClosing, Bool.or_eq_true, beq_iff_eq] at hc
      rcases hc with (rfl | rfl) | rfl <;> exact absurd h.1 (by decide)
    have hc : readBracket a c = some a := by simp [readBracket, hopen, hclose]
    rw [readBrackets, hc]
    exact ih h.2

theorem TokenChars.wellBracketed (h : TokenChars s) : WellBracketed s :=
  turns_of_forall (fun c hc => .inl (h c hc)) []

theorem IsToken.wellBracketed (h : IsToken s) : WellBracketed s := TokenChars.wellBracketed h.2

theorem NameChars.wellBracketed (h : NameChars s) : WellBracketed s :=
  TokenChars.wellBracketed fun c hc => isTokenChar_of_isNameChar (h c hc)

theorem wellBracketed_toString_int (n : Int) : WellBracketed (toString n) := by
  rw [Int.toString_eq_repr, Int.repr_eq_if]
  split
  · exact (nameChars_toString_nat _).wellBracketed
  · exact (turns_ofList rfl).insert (nameChars_toString_nat _).wellBracketed

end Turns

end Text

namespace Layout

open Text

def Bracketed (lines : List Line) : Prop := WellBracketed (render lines)

theorem turns_render_text {a b : List Char} {s : String} (depth : Nat) :
    Turns a (Line.text depth s).render b ↔ Turns a s b := by
  have hindentation : Turns a (Line.indentation depth) a := by
    apply turns_of_forall
    intro c hc
    rw [Line.indentation, String.toList_ofList] at hc
    exact .inr (.inl (List.eq_of_mem_replicate hc))
  unfold Turns at hindentation ⊢
  rw [Line.render, String.toList_append, String.toList_append, readBrackets_append, readBrackets_append,
    hindentation, Option.bind_some]
  cases readBrackets a s.toList with
  | none => exact Iff.rfl
  | some later => exact Iff.rfl

theorem turns_render_indentBy {a b : List Char} {lines : List Line} (n : Nat) :
    Turns a (render (indentBy n lines)) b ↔ Turns a (render lines) b := by
  have hline (a b : List Char) (l : Line) : Turns a (l.indentBy n).render b ↔ Turns a l.render b := by
    cases l with
    | text depth s => rw [Line.indentBy, turns_render_text, turns_render_text]
    | blank => exact Iff.rfl
    | verbatim s => exact Iff.rfl
  induction lines generalizing a with
  | nil => exact Iff.rfl
  | cons l lines ih =>
    rw [indentBy, List.map_cons, render_cons, render_cons, turns_append_iff, turns_append_iff]
    exact exists_congr fun mid => and_congr (hline a mid l) ih

namespace Bracketed

variable {α : Type} {xs ys : List Line} {s first last head tail : String} {opened : List Char}

theorem nil : Bracketed [] := rfl

theorem append (hxs : Bracketed xs) (hys : Bracketed ys) : Bracketed (xs ++ ys) := by
  rw [Bracketed, render_append]
  exact Turns.insert hxs hys

theorem cons (hs : WellBracketed s) (hxs : Bracketed xs) : Bracketed (line s :: xs) := by
  rw [Bracketed, render_cons]
  exact Turns.insert ((turns_render_text 0).mpr hs) hxs

theorem literal {cs : List Char} (h : readBrackets [] cs = some []) (hxs : Bracketed xs) :
    Bracketed (line (String.ofList cs) :: xs) := cons (turns_ofList h) hxs

theorem blank (hxs : Bracketed xs) : Bracketed (.blank :: xs) := by
  rw [Bracketed, render_cons]
  exact (turns_ofList rfl).insert hxs

theorem flatMap {f : α → List Line} {as : List α} (h : ∀ a ∈ as, Bracketed (f a)) :
    Bracketed (as.flatMap f) := by
  induction as with
  | nil => exact nil
  | cons a as ih =>
    rw [List.forall_mem_cons] at h
    rw [List.flatMap_cons]
    exact h.1.append (ih h.2)

theorem map_line {f : α → String} {as : List α} (h : ∀ a ∈ as, WellBracketed (f a)) :
    Bracketed (as.map fun a => line (f a)) := by
  induction as with
  | nil => exact nil
  | cons a as ih =>
    rw [List.forall_mem_cons] at h
    exact cons h.1 (ih h.2)

theorem turns_indent (hxs : Bracketed xs) (outer : List Char) : Turns outer (render (indent xs)) outer :=
  (turns_render_indentBy 1).mpr (WellBracketed.inside hxs outer)

theorem enclosed (hfirst : Turns [] first opened) (hxs : Bracketed xs) (hlast : Turns opened last []) :
    Bracketed (line first :: indent xs ++ [line last]) := by
  have hend : Turns opened (render [line last]) [] := by
    rw [render_cons]
    exact ((turns_render_text 0).mpr hlast).insert nil
  rw [Bracketed, render_append, render_cons]
  exact (((turns_render_text 0).mpr hfirst).append (turns_indent hxs opened)).append hend

theorem braced (hhead : Turns [] head opened) (hxs : Bracketed xs) (htail : Turns opened tail []) :
    Bracketed (braced head xs tail) :=
  enclosed (hhead.append (turns_ofList rfl)) hxs (Turns.append (turns_ofList rfl) htail)

theorem block {cs ds : List Char} (hhead : readBrackets [] cs = some opened) (hxs : Bracketed xs)
    (htail : readBrackets opened ds = some []) :
    Bracketed (Layout.braced (String.ofList cs) xs (String.ofList ds)) :=
  braced (turns_ofList hhead) hxs (turns_ofList htail)

theorem bracedElse (hhead : WellBracketed head) (hxs : Bracketed xs) (hys : Bracketed ys) :
    Bracketed (bracedElse head xs ys) := by
  have hopen : Turns [] (head ++ openBrace) ['\x7d'] := Turns.append hhead (turns_ofList rfl)
  have helse : Turns ['\x7d'] (closeBrace ++ " else " ++ openBrace) ['\x7d'] :=
    Turns.append (.append (turns_ofList rfl) (turns_ofList rfl)) (turns_ofList rfl)
  have hend : Turns ['\x7d'] (render [line closeBrace]) [] := by
    rw [render_cons]
    exact ((turns_render_text 0).mpr (turns_ofList rfl)).insert nil
  rw [Bracketed, Layout.bracedElse, render_append, render_append, render_cons, render_cons]
  exact ((((turns_render_text 0).mpr hopen).append (turns_indent hxs _)).append
    (((turns_render_text 0).mpr helse).append (turns_indent hys _))).append hend

end Bracketed

end Layout

end ProtoStubs
