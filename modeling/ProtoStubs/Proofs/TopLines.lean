import ProtoStubs.Layout
import ProtoStubs.Text.Affix

/-!
# The outermost lines of a text

How a line starts or ends is mostly seen from the fixed text that it starts or ends with. The lines inside a
block are indented, so of the block only its first and its last line are outermost ones.
-/

namespace ProtoStubs

namespace Text

def startsWith (lead s : String) : Bool := lead.toList.isPrefixOf s.toList

def differ : List Char → List Char → Bool
  | c :: cs, d :: ds => c != d || differ cs ds
  | _, _ => false

theorem isPrefixOf_of_differ {lead cs : List Char} (h : differ lead cs = true) (rest : List Char) :
    lead.isPrefixOf (cs ++ rest) = false := by
  induction lead generalizing cs with
  | nil => cases h
  | cons c lead ih =>
    cases cs with
    | nil => cases h
    | cons d cs =>
      rw [differ, Bool.or_eq_true, bne_iff_ne] at h
      rw [List.cons_append, List.isPrefixOf_cons_cons, Bool.and_eq_false_iff, beq_eq_false_iff_ne]
      exact h.imp id ih

theorem startsWith_append (lead s : String) : startsWith lead (lead ++ s) = true := by
  simp [startsWith]

theorem startsWith_of_differ {lead a : String} (h : differ lead.toList a.toList = true) (s : String) :
    startsWith lead (a ++ s) = false := by
  rw [startsWith, String.toList_append]
  exact isPrefixOf_of_differ h s.toList

theorem endsWith_append (s tail : String) : endsWith tail (s ++ tail) = true := by
  simp [endsWith]

theorem endsWith_of_differ {tail a : String}
    (h : differ tail.toList.reverse a.toList.reverse = true) (s : String) :
    endsWith tail (s ++ a) = false := by
  rw [endsWith, String.toList_append, List.isSuffixOf, List.reverse_append]
  exact isPrefixOf_of_differ h s.toList.reverse

end Text

namespace Layout

def isTop (p : String → Bool) : Line → Bool
  | .text 0 content => p content
  | _ => false

section Top

variable {p : String → Bool}

theorem not_isTop_indent {ls : List Line} {l : Line} (h : l ∈ indent ls) : isTop p l = false := by
  obtain ⟨l, -, rfl⟩ := List.mem_map.mp h
  cases l with
  | text depth content =>
    have hdepth : 1 + depth = depth + 1 := Nat.add_comm 1 depth
    rw [Line.indentBy, hdepth]
    rfl
  | blank => rfl
  | verbatim content => rfl

def Lacks (p : String → Bool) (ls : List Line) : Prop := ∀ l ∈ ls, isTop p l = false

instance (ls : List Line) : Decidable (Lacks p ls) := List.decidableBAll _ _

theorem lacks_append {xs ys : List Line} : Lacks p (xs ++ ys) ↔ Lacks p xs ∧ Lacks p ys :=
  List.forall_mem_append

theorem Lacks.flatMap {α : Type} {xs : List α} {lines : α → List Line} (h : ∀ x ∈ xs, Lacks p (lines x)) :
    Lacks p (xs.flatMap lines) := by
  intro l hl
  obtain ⟨x, hx, hl⟩ := List.mem_flatMap.mp hl
  exact h x hx l hl

theorem Lacks.braced {head tail : String} {body : List Line} (hhead : p (head ++ openBrace) = false)
    (hclose : p (closeBrace ++ tail) = false) : Lacks p (braced head body tail) := by
  intro l hl
  rw [Layout.braced, List.cons_append, List.mem_cons, List.mem_append, List.mem_singleton] at hl
  rcases hl with rfl | hl | rfl
  · exact hhead
  · exact not_isTop_indent hl
  · exact hclose

def isImport (content : String) : Bool := Text.startsWith "import " content

theorem not_isImport {lead : String} (h : Text.differ "import ".toList lead.toList = true) (rest : String) :
    isImport (lead ++ rest) = false :=
  Text.startsWith_of_differ h rest

theorem lacks_import_braced {lead : String} (h : Text.differ "import ".toList lead.toList = true)
    (rest tail : String) (body : List Line) : Lacks isImport (braced (lead ++ rest) body tail) := by
  refine Lacks.braced ?_ (not_isImport rfl tail)
  rw [String.append_assoc]
  exact not_isImport h _

theorem lacks_blank (p : String → Bool) : Lacks p [.blank] := fun l hl => by
  rw [List.mem_singleton.mp hl]
  rfl

end Top

end Layout

end ProtoStubs
