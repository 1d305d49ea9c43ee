import ProtoStubs.SourcePath
import ProtoStubs.Text.Split

/-!
# Relative paths

A path has segments with `/` between them, and the segments before the last one are its directory. A
relative path leads from a directory to another place: `.` stays, `..` leaves the innermost directory, and
every other segment enters. The path by which a module is imported leads from the directory of the importing
file to the root of the output, and from there to the module.
-/

namespace ProtoStubs

namespace Text

theorem length_splitChars (sep : Char) (cs : List Char) :
    (splitChars sep cs).length = cs.count sep + 1 := by
  induction cs with
  | nil => rfl
  | cons c cs ih =>
    rw [splitChars]
    by_cases hc : c = sep
    · rw [if_pos hc, List.length_cons, ih, hc, List.count_cons_self]
    · rw [if_neg hc, List.length_modifyHead, ih, List.count_cons_of_ne hc]

theorem exists_splitChars_append (sep : Char) (cs : List Char) :
    ∃ parts last, ∀ tail, sep ∉ tail → splitChars sep (cs ++ tail) = parts ++ [last ++ tail] := by
  induction cs with
  | nil => exact ⟨[], [], fun tail htail => splitChars_of_not_mem htail⟩
  | cons c cs ih =>
    obtain ⟨parts, last, h⟩ := ih
    by_cases hc : c = sep
    · refine ⟨[] :: parts, last, ?_⟩
      intro tail htail
      rw [List.cons_append, splitChars, if_pos hc, h tail htail, List.cons_append]
    · cases parts with
      | nil =>
        refine ⟨[], c :: last, ?_⟩
        intro tail htail
        rw [List.cons_append, splitChars, if_neg hc, h tail htail]
        rfl
      | cons part parts =>
        refine ⟨(c :: part) :: parts, last, ?_⟩
        intro tail htail
        rw [List.cons_append, splitChars, if_neg hc, h tail htail]
        rfl

theorem intercalate_splitChars (cs : List Char) :
    String.intercalate "/" ((splitChars '/' cs).map String.ofList) = String.ofList cs := by
  induction cs with
  | nil => rfl
  | cons c cs ih =>
    obtain ⟨first, parts, h⟩ := exists_splitChars '/' cs
    rw [h, List.map_cons] at ih
    rw [splitChars, h]
    by_cases hc : c = '/'
    · rw [if_pos hc, List.map_cons, List.map_cons, String.intercalate_cons_cons, ih, hc]
      exact String.ofList_append.symm
    · have hcons (cs : List Char) : String.ofList (c :: cs) = String.ofList [c] ++ String.ofList cs := by
        rw [← String.ofList_append]
        rfl
      rw [if_neg hc, List.modifyHead_cons, List.map_cons, hcons first, String.intercalate_cons_append,
        ih, hcons cs]

end Text

namespace SourcePath

open Text (splitChars)

def segments (path : String) : List String := (splitChars '/' path.toList).map String.ofList

/-- No segment is empty or leads to a place other than itself. -/
def IsPlain (path : String) : Prop := ∀ s ∈ segments path, s ≠ "" ∧ s ≠ "." ∧ s ≠ ".."

instance (path : String) : Decidable (IsPlain path) := List.decidableBAll _ _

def directory (path : String) : List String := (segments path).dropLast

/-- Where a segment leads from a place; from the root no segment leads up. -/
def step (place : List String) (segment : String) : Option (List String) :=
  if segment = "." then some place
  else if segment = ".." then if place = [] then none else some place.dropLast
  else some (place ++ [segment])

/-- Where a path leads from a directory. -/
def resolve (dir : List String) (path : String) : Option String :=
  ((segments path).foldlM step dir).map (String.intercalate "/")

section Steps

theorem foldlM_step_up (dir : List String) :
    (List.replicate dir.length "..").foldlM step dir = some [] := by
  generalize hn : dir.length = n
  induction n generalizing dir with
  | zero => rw [List.length_eq_zero_iff.mp hn]; rfl
  | succ n ih =>
    have hne : dir ≠ [] := by
      rintro rfl
      cases hn
    have hstep : step dir ".." = some dir.dropLast := by
      rw [step, if_neg (by decide), if_pos rfl, if_neg hne]
    rw [List.replicate_succ, List.foldlM_cons, hstep]
    exact ih dir.dropLast (by rw [List.length_dropLast, hn, Nat.add_sub_cancel])

theorem foldlM_step_down {names : List String} (h : ∀ s ∈ names, s ≠ "." ∧ s ≠ "..")
    (place : List String) : names.foldlM step place = some (place ++ names) := by
  induction names generalizing place with
  | nil => rw [List.append_nil]; rfl
  | cons s names ih =>
    rw [List.forall_mem_cons] at h
    have hstep : step place s = some (place ++ [s]) := by
      rw [step, if_neg h.1.1, if_neg h.1.2]
    rw [List.foldlM_cons, hstep, List.append_cons place s names]
    exact ih h.2 (place ++ [s])

end Steps

theorem intercalate_segments (path : String) : String.intercalate "/" (segments path) = path := by
  rw [segments, Text.intercalate_splitChars, String.ofList_toList]

theorem exists_segments_append (path : String) :
    ∃ parts last, ∀ tail : String, '/' ∉ tail.toList →
      segments (path ++ tail) = parts ++ [last ++ tail] := by
  obtain ⟨parts, last, h⟩ := Text.exists_splitChars_append '/' path.toList
  refine ⟨parts.map String.ofList, String.ofList last, ?_⟩
  intro tail htail
  rw [segments, String.toList_append, h _ htail, List.map_append, List.map_singleton,
    String.ofList_append, String.ofList_toList]

theorem directory_append {path tail : String} (h : '/' ∉ tail.toList) :
    directory (path ++ tail) = directory path := by
  obtain ⟨parts, last, hparts⟩ := exists_segments_append path
  have hempty := hparts "" (by decide)
  rw [String.append_empty] at hempty
  rw [directory, directory, hparts tail h, hempty, List.dropLast_concat, List.dropLast_concat]

theorem length_directory (path : String) : (directory path).length = path.toList.count '/' := by
  rw [directory, List.length_dropLast, segments, List.length_map, Text.length_splitChars,
    Nat.add_sub_cancel]

theorem segments_up (n : Nat) (rest : String) :
    segments (String.ofList (List.replicate n ['.', '.', '/']).flatten ++ rest) =
      List.replicate n ".." ++ segments rest := by
  induction n with
  | zero => simp
  | succ n ih =>
    have hchars : (String.ofList (List.replicate (n + 1) ['.', '.', '/']).flatten ++ rest).toList =
        ['.', '.'] ++ '/' ::
          (String.ofList (List.replicate n ['.', '.', '/']).flatten ++ rest).toList := by
      simp [List.replicate_succ]
    rw [segments, hchars, Text.splitChars_append (by decide), List.map_cons, List.replicate_succ,
      List.cons_append, ← ih]
    rfl

/-- The way to the root leads there from the directory of the file, and the rest goes on from it. -/
theorem foldlM_step_toRoot (path rest : String) :
    (segments (toRoot path ++ rest)).foldlM step (directory path) = (segments rest).foldlM step [] := by
  have hlength := length_directory path
  unfold toRoot
  split
  · rename_i hzero
    rw [hzero] at hlength
    have hchars : ("./" ++ rest).toList = ['.'] ++ '/' :: rest.toList := by simp
    rw [List.length_eq_zero_iff.mp hlength, segments, hchars, Text.splitChars_append (by decide)]
    rfl
  · rw [segments_up, List.foldlM_append, ← hlength, foldlM_step_up]
    rfl

section Modules

theorem stem_append {path : String} (h : Text.endsWith schemaSuffix path = true) :
    stem path ++ schemaSuffix = path := by
  have hsuffix : schemaSuffix.toList.isSuffixOf path.toList = true := h
  obtain ⟨lead, hlead⟩ := List.isSuffixOf_iff_suffix.mp hsuffix
  apply String.toList_inj.mp
  rw [stem, Text.dropTail, Text.dropTailChars, if_pos hsuffix, String.toList_append,
    String.toList_ofList, ← hlead]
  simp

theorem stem_of_not_endsWith {path : String} (h : Text.endsWith schemaSuffix path = false) :
    stem path = path := by
  have hsuffix : ¬ schemaSuffix.toList.isSuffixOf path.toList = true := Bool.eq_false_iff.mp h
  rw [stem, Text.dropTail, Text.dropTailChars, if_neg hsuffix, String.ofList_toList]

theorem directory_stem (path : String) : directory (stem path) = directory path := by
  cases h : Text.endsWith schemaSuffix path with
  | true =>
    have hdir : directory (stem path ++ schemaSuffix) = directory (stem path) :=
      directory_append (by decide)
    rw [← hdir, stem_append h]
  | false => rw [stem_of_not_endsWith h]

theorem directory_modulePath (path : String) : directory (modulePath path) = directory path := by
  unfold modulePath
  split
  · rw [directory_append (by decide), directory_stem]
  · rfl

theorem IsPlain.modulePath {path : String} (h : IsPlain path) : IsPlain (modulePath path) := by
  unfold SourcePath.modulePath
  split
  · rename_i hends
    obtain ⟨parts, last, hparts⟩ := exists_segments_append (stem path)
    have hpath : segments path = parts ++ [last ++ schemaSuffix] := by
      rw [← hparts schemaSuffix (by decide), stem_append hends]
    intro s hs
    rw [hparts moduleSuffix (by decide), List.mem_append, List.mem_singleton] at hs
    rcases hs with hs | rfl
    · apply h
      rw [hpath]
      exact List.mem_append_left _ hs
    · -- The last segment ends in the letter of the module suffix, and the excluded ones do not.
      have hlast : (last ++ moduleSuffix).toList.getLast? = some 'b' := by
        rw [String.toList_append, List.getLast?_append]
        rfl
      refine ⟨?_, ?_, ?_⟩ <;> intro heq <;> rw [heq] at hlast <;> revert hlast <;> decide
  · exact h

theorem resolve_relativeImport (viewer : String) {target : String} (h : IsPlain target) :
    resolve (directory viewer) (relativeImport viewer target) = some (modulePath target) := by
  rw [resolve, relativeImport, foldlM_step_toRoot, foldlM_step_down fun s hs => (h.modulePath s hs).2,
    Option.map_some, List.nil_append, intercalate_segments]

end Modules

end SourcePath

end ProtoStubs
