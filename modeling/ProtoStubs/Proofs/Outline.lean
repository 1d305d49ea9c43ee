import ProtoStubs.Proofs.Reading
import ProtoStubs.Proofs.Tokens

/-!
# The outline of a text

A text is read as lines with a depth, and the lines as sections: an outermost line, and the deeper lines
that follow it, one level out. The lines of a text that is put together of outermost parts have the
sections of these parts.
-/

namespace ProtoStubs

section Gather

variable {α β : Type}

/-- Each head with the details up to the next head, and before them the details that have no head. -/
def gather : List (α ⊕ β) → List β × List (α × List β)
  | [] => ([], [])
  | .inl a :: rest => ([], (a, (gather rest).1) :: (gather rest).2)
  | .inr b :: rest => (b :: (gather rest).1, (gather rest).2)

theorem gather_append {ys : List (α ⊕ β)} (h : (gather ys).1 = []) (xs : List (α ⊕ β)) :
    gather (xs ++ ys) = ((gather xs).1, (gather xs).2 ++ (gather ys).2) := by
  induction xs with
  | nil => rw [List.nil_append, gather, ← h]; rfl
  | cons x xs ih =>
    cases x with
    | inl a => simp only [List.cons_append, gather, ih]
    | inr b => simp only [List.cons_append, gather, ih]

theorem gather_details (bs : List β) : gather (bs.map (Sum.inr (α := α))) = (bs, []) := by
  induction bs with
  | nil => rfl
  | cons b bs ih => rw [List.map_cons, gather, ih]

theorem gather_group (a : α) (bs : List β) : gather (.inl a :: bs.map .inr) = ([], [(a, bs)]) := by
  rw [gather, gather_details]

theorem gather_flatMap {γ : Type} {xs : List γ} {head : γ → α} {details : γ → List β} :
    gather (xs.flatMap fun x => .inl (head x) :: (details x).map .inr) =
      ([], xs.map fun x => (head x, details x)) := by
  induction xs with
  | nil => rfl
  | cons x xs ih =>
    rw [List.flatMap_cons, gather_append (by rw [ih]), ih, gather_group]
    rfl

theorem filterMap_one (select : α → Option β) (a : α) : [a].filterMap select = (select a).toList := by
  cases h : select a <;> simp [h]

end Gather

namespace Layout

open Declaration (lineChars OneLine)

/-- An outermost line, and the lines below it. -/
structure Section where
  head : String
  body : List (Nat × String)
  deriving DecidableEq

/-- The depth of a line and its content. An empty line has none. -/
def readLine (cs : List Char) : Option (Nat × String) :=
  match cs.dropWhile (· == ' ') with
  | [] => none
  | content => some ((cs.takeWhile (· == ' ')).length / 2, String.ofList content)

def readLines (t : String) : List (Nat × String) := (Text.splitChars '\n' t.toList).filterMap readLine

/-- An outermost line is the head of a section, any other line is a detail of it. -/
def headOrDetail : Nat × String → String ⊕ (Nat × String)
  | (0, content) => .inl content
  | (depth + 1, content) => .inr (depth, content)

def sections (ls : List (Nat × String)) : List Section :=
  (gather (ls.map headOrDetail)).2.map fun p => ⟨p.1, p.2⟩

/-- What the patterns leave open in lines of the same depth, one pattern for each line. -/
def capturesAll : List String → List (Nat × String) → Option (List String)
  | [], [] => some []
  | pattern :: patterns, (0, content) :: ls =>
    match Text.captures pattern content, capturesAll patterns ls with
    | some found, some later => some (found ++ later)
    | _, _ => none
  | _, _ => none

def written? : Line → Option (Nat × String)
  | .text depth content => some (depth, content)
  | _ => none

def written (ls : List Line) : List (Nat × String) := ls.filterMap written?

theorem written_cons (l : Line) (ls : List Line) : written (l :: ls) = (written? l).toList ++ written ls := by
  cases l <;> rfl

theorem written_append (xs ys : List Line) : written (xs ++ ys) = written xs ++ written ys :=
  List.filterMap_append

theorem written_map_line {α : Type} (content : α → String) (xs : List α) :
    written (xs.map fun x => line (content x)) = xs.map fun x => (0, content x) := by
  simp [written, written?, line, List.filterMap_map, Function.comp_def]

/-- A line that is read as it was written. -/
def Legible : Line → Prop
  | .text _ content => '\n' ∉ content.toList ∧ content.toList.head?.any (· != ' ') = true
  | .blank => True
  | .verbatim _ => False

instance (l : Line) : Decidable (Legible l) := by
  cases l <;> unfold Legible <;> infer_instance

theorem Legible.oneLine {l : Line} (h : Legible l) : OneLine l := by
  cases l with
  | text depth content => exact h.1
  | blank => trivial
  | verbatim content => exact h

theorem Legible.indentBy {l : Line} (h : Legible l) (n : Nat) : Legible (l.indentBy n) := by
  cases l with
  | text depth content => exact h
  | blank => trivial
  | verbatim content => exact h

theorem Legible.append {s t : String} (hs : Legible (line s)) (ht : '\n' ∉ t.toList) :
    Legible (line (s ++ t)) := by
  obtain ⟨hs, hhead⟩ := hs
  refine ⟨by simp [hs, ht], ?_⟩
  rw [String.toList_append]
  cases hchars : s.toList with
  | nil => simp [hchars] at hhead
  | cons c rest => simpa [hchars] using hhead

theorem newline_not_mem_ofList {cs : List Char} (h : cs.contains '\n' = false) :
    '\n' ∉ (String.ofList cs).toList := by
  rw [String.toList_ofList]
  simpa using h

theorem legible_ofList {cs : List Char} (h : (!cs.contains '\n' && cs.head?.any (· != ' ')) = true) :
    Legible (line (String.ofList cs)) := by
  rw [Bool.and_eq_true, Bool.not_eq_true'] at h
  refine ⟨newline_not_mem_ofList h.1, ?_⟩
  rw [String.toList_ofList]
  exact h.2

theorem legible_of_isToken {w : String} (h : Text.IsToken w) : Legible (line w) := by
  refine ⟨h.not_mem_newline, ?_⟩
  cases hchars : w.toList with
  | nil => exact absurd (String.toList_eq_nil_iff.mp hchars) h.1
  | cons c rest =>
    have hc := h.2 c (by simp [hchars])
    have hblank : c ≠ ' ' := by
      rintro rfl
      exact absurd hc (by decide)
    simpa using hblank

theorem legible_indent {ls : List Line} (h : ∀ l ∈ ls, Legible l) : ∀ l ∈ indent ls, Legible l := by
  intro l hl
  obtain ⟨l', hl', rfl⟩ := List.mem_map.mp hl
  exact (h l' hl').indentBy 1

theorem legible_braced {head tail : String} {body : List Line} (hhead : Legible (line head))
    (hbody : ∀ l ∈ body, Legible l) (htail : '\n' ∉ tail.toList) :
    ∀ l ∈ braced head body tail, Legible l := by
  have hopen : '\n' ∉ openBrace.toList := by decide
  have hclose : Legible (line closeBrace) := by decide
  simp only [braced, List.cons_append, List.forall_mem_cons, List.forall_mem_append]
  exact ⟨hhead.append hopen, legible_indent hbody, hclose.append htail, by simp⟩

theorem legible_bracedElse {head : String} {body otherwise : List Line} (hhead : Legible (line head))
    (hbody : ∀ l ∈ body, Legible l) (hotherwise : ∀ l ∈ otherwise, Legible l) :
    ∀ l ∈ bracedElse head body otherwise, Legible l := by
  have hopen : '\n' ∉ openBrace.toList := by decide
  have hclose : Legible (line closeBrace) := by decide
  have hmiddle : Legible (line (closeBrace ++ " else " ++ openBrace)) :=
    (hclose.append (newline_not_mem_ofList rfl)).append hopen
  simp only [bracedElse, List.cons_append, List.forall_mem_cons, List.forall_mem_append]
  exact ⟨hhead.append hopen, ⟨legible_indent hbody, hmiddle, legible_indent hotherwise⟩, hclose, by simp⟩

theorem readLine_lineChars {l : Line} (h : Legible l) : readLine (lineChars l) = written? l := by
  cases l with
  | text depth content =>
    obtain ⟨-, hhead⟩ := h
    have hreplicate : ∀ d ∈ List.replicate (2 * depth) ' ', (d == ' ') = true := by
      intro d hd
      rw [List.eq_of_mem_replicate hd]
      rfl
    cases hchars : content.toList with
    | nil => simp [hchars] at hhead
    | cons c rest =>
      have hc : (c == ' ') = false := by simpa [hchars] using hhead
      have hcontent : String.ofList (c :: rest) = content := by rw [← hchars, String.ofList_toList]
      rw [lineChars, readLine, List.takeWhile_append_of_pos hreplicate,
        List.dropWhile_append_of_pos hreplicate, hchars, List.dropWhile_cons, hc]
      simp [hc, hcontent, written?]
  | blank => rfl
  | verbatim content => cases h

theorem readLines_render {ls : List Line} (h : ∀ l ∈ ls, Legible l) :
    readLines (render ls) = written ls := by
  have hread : ∀ rest : List Char, (Text.splitChars '\n' ((render ls).toList ++ rest)).filterMap readLine =
      written ls ++ (Text.splitChars '\n' rest).filterMap readLine := by
    intro rest
    induction ls with
    | nil => rfl
    | cons l ls ih =>
      rw [List.forall_mem_cons] at h
      -- A line of its own is cut off at its end.
      rw [render_cons, String.toList_append, h.1.oneLine.render, List.append_assoc, List.append_assoc,
        List.singleton_append, Text.splitChars_append h.1.oneLine.not_mem, List.filterMap_cons,
        readLine_lineChars h.1, ih h.2, written_cons]
      cases written? l <;> rfl
  have hread := hread []
  rw [List.append_nil] at hread
  exact hread.trans (List.append_nil _)

def outline (ls : List Line) : List Section := sections (written ls)

/-- No line stands deeper before the first outermost one. -/
def Outermost (ls : List Line) : Prop := (gather ((written ls).map headOrDetail)).1 = []

theorem written_indent (ls : List Line) :
    (written (indent ls)).map headOrDetail = (written ls).map .inr := by
  induction ls with
  | nil => rfl
  | cons l ls ih =>
    have hcons : indent (l :: ls) = l.indentBy 1 :: indent ls := rfl
    rw [hcons, written_cons, written_cons, List.map_append, List.map_append, ih]
    cases l <;> simp [Line.indentBy, written?, headOrDetail, Nat.add_comm 1]

theorem outline_append {ys : List Line} (h : Outermost ys) (xs : List Line) :
    outline (xs ++ ys) = outline xs ++ outline ys := by
  simp only [outline, sections, written_append, List.map_append, gather_append h]

theorem Outermost.append {xs ys : List Line} (hxs : Outermost xs) (hys : Outermost ys) :
    Outermost (xs ++ ys) := by
  simp only [Outermost, written_append, List.map_append, gather_append hys] at hxs ⊢
  exact hxs

theorem outermost_nil : Outermost [] := rfl

theorem outermost_line (content : String) : Outermost [line content] := rfl

theorem outermost_blank : Outermost [.blank] := rfl

theorem outline_line (content : String) : outline [line content] = [⟨content, []⟩] := rfl

theorem outline_blank : outline [.blank] = [] := rfl

theorem gather_braced (head tail : String) (body : List Line) :
    gather ((written (braced head body tail)).map headOrDetail) =
      ([], [(head ++ openBrace, written body), (closeBrace ++ tail, [])]) := by
  have hhead : (written [line (head ++ openBrace)]).map headOrDetail =
      [Sum.inl (head ++ openBrace)] := rfl
  have htail : gather ((written [line (closeBrace ++ tail)]).map headOrDetail) =
      ([], [(closeBrace ++ tail, [])]) := rfl
  rw [braced, ← List.singleton_append, written_append, written_append, List.map_append, List.map_append,
    written_indent, hhead, gather_append (by rw [htail]), htail, List.singleton_append, gather_group]
  rfl

theorem outermost_braced (head tail : String) (body : List Line) : Outermost (braced head body tail) := by
  rw [Outermost, gather_braced]

theorem outline_braced (head tail : String) (body : List Line) :
    outline (braced head body tail) = [⟨head ++ openBrace, written body⟩, ⟨closeBrace ++ tail, []⟩] := by
  rw [outline, sections, gather_braced]
  rfl

theorem outermost_flatMap {γ : Type} {xs : List γ} {lines : γ → List Line}
    (h : ∀ x ∈ xs, Outermost (lines x)) : Outermost (xs.flatMap lines) := by
  induction xs with
  | nil => exact outermost_nil
  | cons x xs ih =>
    rw [List.forall_mem_cons] at h
    rw [List.flatMap_cons]
    exact h.1.append (ih h.2)

theorem outline_flatMap {γ : Type} {xs : List γ} {lines : γ → List Line}
    (h : ∀ x ∈ xs, Outermost (lines x)) :
    outline (xs.flatMap lines) = xs.flatMap fun x => outline (lines x) := by
  induction xs with
  | nil => rfl
  | cons x xs ih =>
    rw [List.forall_mem_cons] at h
    rw [List.flatMap_cons, List.flatMap_cons, outline_append (outermost_flatMap h.2), ih h.2]

theorem outermost_map_line {γ : Type} (content : γ → String) (xs : List γ) :
    Outermost (xs.map fun x => line (content x)) := by
  rw [List.map_eq_flatMap]
  exact outermost_flatMap fun x _ => outermost_line (content x)

theorem outline_map_line {γ : Type} (content : γ → String) (xs : List γ) :
    outline (xs.map fun x => line (content x)) = xs.map fun x => ⟨content x, []⟩ := by
  rw [List.map_eq_flatMap, List.map_eq_flatMap, outline_flatMap fun x _ => outermost_line (content x)]
  rfl

end Layout

end ProtoStubs
