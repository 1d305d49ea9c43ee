import Mathlib.Data.List.Induction
import ProtoStubs.Proofs.ParameterValues

/-!
# Parameter strings written from pairs

Pairs of a key and a value are written as a parameter string by an `=` in each pair and commas between them,
with empty chunks wherever one likes. Reading the string groups the pairs by their keys; and a string says the
same as the pairs of its own chunks written so.
-/

namespace ProtoStubs.Parameters

/-- The pairs put together by their keys: each key once, in the order in which the keys first appear, and with
it all of its values in their order. -/
structure Grouped (ps : List (String × String)) (groups : List (String × List String)) : Prop where
  mem_keys (key : String) : key ∈ groups.map Prod.fst ↔ key ∈ ps.map Prod.fst
  keys_ordered : (groups.map Prod.fst).Pairwise fun key later =>
    (ps.map Prod.fst).idxOf key < (ps.map Prod.fst).idxOf later
  values : ∀ group ∈ groups, group.2 = valuesIn group.1 ps

/-- The pairs that the groups hold, group by group. -/
def ungroup (groups : List (String × List String)) : List (String × String) :=
  groups.flatMap fun group => group.2.map fun value => (group.1, value)

theorem valuesIn_concat (key : String) (ps : List (String × String)) (p : String × String) :
    valuesIn key (ps ++ [p]) = valuesIn key ps ++ if p.1 = key then [p.2] else [] := by
  by_cases h : p.1 = key <;> simp [valuesIn, h]

theorem valuesIn_eq_nil {key : String} {ps : List (String × String)} (h : key ∉ ps.map Prod.fst) :
    valuesIn key ps = [] := by
  rw [valuesIn, List.map_eq_nil_iff, List.filter_eq_nil_iff]
  intro p hp hkey
  exact h (List.mem_map.mpr ⟨p, hp, beq_iff_eq.mp hkey⟩)

/-- A further value goes to the group of its key, or to a new group at the end. -/
theorem addValue_cases (key value : String) (groups : List (String × List String)) :
    (∃ before values after, groups = before ++ (key, values) :: after ∧
      addValue key value groups = before ++ (key, values ++ [value]) :: after) ∨
    (key ∉ groups.map Prod.fst ∧ addValue key value groups = groups ++ [(key, [value])]) := by
  induction groups with
  | nil => exact .inr ⟨List.not_mem_nil, rfl⟩
  | cons group rest ih =>
    obtain ⟨k, values⟩ := group
    by_cases hk : k = key
    · subst hk
      exact .inl ⟨[], values, rest, rfl, if_pos rfl⟩
    · have hstep : addValue key value ((k, values) :: rest) = (k, values) :: addValue key value rest :=
        if_neg hk
      rw [hstep]
      obtain ⟨before, found, after, hrest, hadd⟩ | ⟨hnew, hadd⟩ := ih
      · exact .inl ⟨(k, values) :: before, found, after, by rw [hrest]; rfl, by rw [hadd]; rfl⟩
      · refine .inr ⟨?_, by rw [hadd]; rfl⟩
        rw [List.map_cons, List.mem_cons, not_or]
        exact ⟨Ne.symm hk, hnew⟩

theorem perm_ungroup_addValue (key value : String) (groups : List (String × List String)) :
    (ungroup (addValue key value groups)).Perm (ungroup groups ++ [(key, value)]) := by
  obtain ⟨before, values, after, rfl, hadd⟩ | ⟨-, hadd⟩ := addValue_cases key value groups
  · rw [hadd]
    simp only [ungroup, List.flatMap_append, List.flatMap_cons, List.map_append, List.map_cons,
      List.map_nil, List.append_assoc]
    exact (List.perm_append_comm.append_left _).append_left _
  · rw [hadd]
    simp [ungroup]

namespace Grouped

variable {ps : List (String × String)} {groups : List (String × List String)} {key : String}

theorem nodup_keys (h : Grouped ps groups) : (groups.map Prod.fst).Nodup := by
  refine h.keys_ordered.imp ?_
  rintro key later hlt rfl
  exact Nat.lt_irrefl _ hlt

theorem eq_map (h : Grouped ps groups) :
    groups = (groups.map Prod.fst).map fun key => (key, valuesIn key ps) := by
  rw [List.map_map]
  refine (List.map_id' groups).symm.trans (List.map_congr_left ?_)
  intro group hgroup
  exact Prod.ext rfl (h.values group hgroup)

theorem unique {others : List (String × List String)} (h : Grouped ps groups)
    (hothers : Grouped ps others) : groups = others := by
  -- Both lists have the same keys and stand in the order of their first places, so they are one list.
  have hkeys : groups.map Prod.fst = others.map Prod.fst := by
    have hperm : (groups.map Prod.fst).Perm (others.map Prod.fst) :=
      (List.perm_ext_iff_of_nodup h.nodup_keys hothers.nodup_keys).mpr fun key =>
        (h.mem_keys key).trans (hothers.mem_keys key).symm
    refine hperm.eq_of_pairwise ?_ h.keys_ordered hothers.keys_ordered
    intro key later _ _ hlt hgt
    exact absurd hgt (Nat.lt_asymm hlt)
  rw [h.eq_map, hothers.eq_map, hkeys]

theorem nil : Grouped [] [] where
  mem_keys _ := Iff.rfl
  keys_ordered := .nil
  values _ hgroup := absurd hgroup List.not_mem_nil

theorem keys_ordered_concat (h : Grouped ps groups) (p : String × String) :
    (groups.map Prod.fst).Pairwise fun key later =>
      ((ps ++ [p]).map Prod.fst).idxOf key < ((ps ++ [p]).map Prod.fst).idxOf later := by
  refine h.keys_ordered.imp_of_mem ?_
  intro key later hkey hlater hlt
  rw [List.map_append, List.idxOf_append_of_mem ((h.mem_keys key).mp hkey),
    List.idxOf_append_of_mem ((h.mem_keys later).mp hlater)]
  exact hlt

theorem values_concat (h : Grouped ps groups) {p : String × String} {group : String × List String}
    (hgroup : group ∈ groups) :
    valuesIn group.1 (ps ++ [p]) = group.2 ++ if p.1 = group.1 then [p.2] else [] := by
  rw [valuesIn_concat, ← h.values group hgroup]

theorem extend_group {before after : List (String × List String)} {values : List String}
    (h : Grouped ps (before ++ (key, values) :: after)) (value : String) :
    Grouped (ps ++ [(key, value)]) (before ++ (key, values ++ [value]) :: after) := by
  have hmem : (key, values) ∈ before ++ (key, values) :: after := by simp
  have hkeys : (before ++ (key, values ++ [value]) :: after).map Prod.fst =
      (before ++ (key, values) :: after).map Prod.fst := by simp
  -- The keys are distinct, so no other group changes its values by the pair.
  have hothers : key ∉ (before ++ after).map Prod.fst :=
    (List.nodup_cons.mp ((List.perm_middle.map Prod.fst).nodup_iff.mp h.nodup_keys)).1
  refine ⟨?_, ?_, ?_⟩
  · intro other
    have hkey : key ∈ ps.map Prod.fst := (h.mem_keys key).mp (List.mem_map_of_mem hmem)
    rw [hkeys, h.mem_keys, List.map_append, List.mem_append, List.map_singleton, List.mem_singleton]
    constructor
    · exact Or.inl
    · rintro (hother | rfl)
      · exact hother
      · exact hkey
  · rw [hkeys]
    exact h.keys_ordered_concat _
  · intro group hgroup
    rcases List.mem_cons.mp (List.perm_middle.mem_iff.mp hgroup) with rfl | hgroup
    · rw [h.values_concat hmem, if_pos rfl]
    · have hne : key ≠ group.1 := fun heq => hothers (heq ▸ List.mem_map_of_mem hgroup)
      rw [h.values_concat (List.perm_middle.mem_iff.mpr (List.mem_cons_of_mem _ hgroup)),
        if_neg hne, List.append_nil]

theorem new_group (h : Grouped ps groups) (hkey : key ∉ groups.map Prod.fst) (value : String) :
    Grouped (ps ++ [(key, value)]) (groups ++ [(key, [value])]) := by
  have hnew : key ∉ ps.map Prod.fst := fun hmem => hkey ((h.mem_keys key).mpr hmem)
  refine ⟨?_, ?_, ?_⟩
  · intro other
    simp only [List.map_append, List.mem_append, h.mem_keys, List.map_singleton]
  · have hkeys : (groups ++ [(key, [value])]).map Prod.fst = groups.map Prod.fst ++ [key] :=
      List.map_append
    rw [hkeys, List.pairwise_append]
    refine ⟨h.keys_ordered_concat _, List.pairwise_singleton _ _, ?_⟩
    intro earlier hearlier later hlater
    have hearlier : earlier ∈ ps.map Prod.fst := (h.mem_keys earlier).mp hearlier
    rw [List.mem_singleton.mp hlater, List.map_append, List.idxOf_append_of_mem hearlier,
      List.idxOf_append_of_notMem hnew]
    exact Nat.lt_add_right _ (List.idxOf_lt_length_iff.mpr hearlier)
  · intro group hgroup
    rcases List.mem_append.mp hgroup with hgroup | hgroup
    · have hne : key ≠ group.1 := fun heq => hkey (heq ▸ List.mem_map_of_mem hgroup)
      rw [h.values_concat hgroup, if_neg hne, List.append_nil]
    · rw [List.mem_singleton.mp hgroup, valuesIn_concat, valuesIn_eq_nil hnew, if_pos rfl,
        List.nil_append]

theorem addValue (h : Grouped ps groups) (p : String × String) :
    Grouped (ps ++ [p]) (addValue p.1 p.2 groups) := by
  obtain ⟨before, values, after, rfl, hadd⟩ | ⟨hkey, hadd⟩ := addValue_cases p.1 p.2 groups
  · rw [hadd]
    exact h.extend_group p.2
  · rw [hadd]
    exact h.new_group hkey p.2

end Grouped

theorem groupValues_concat (ps : List (String × String)) (p : String × String) :
    groupValues (ps ++ [p]) = addValue p.1 p.2 (groupValues ps) := by
  rw [groupValues, groupValues, List.foldl_append, List.foldl_cons, List.foldl_nil]

theorem grouped_groupValues (ps : List (String × String)) : Grouped ps (groupValues ps) := by
  -- The groups are made from the left, so the last pair is the last step.
  induction ps using List.reverseRecOn with
  | nil => exact .nil
  | append_singleton ps p ih =>
    rw [groupValues_concat]
    exact ih.addValue p

theorem grouped_iff {ps : List (String × String)} {groups : List (String × List String)} :
    Grouped ps groups ↔ groups = groupValues ps := by
  constructor
  · intro h
    exact h.unique (grouped_groupValues ps)
  · rintro rfl
    exact grouped_groupValues ps

theorem perm_ungroup_groupValues (ps : List (String × String)) :
    (ungroup (groupValues ps)).Perm ps := by
  induction ps using List.reverseRecOn with
  | nil => exact .nil
  | append_singleton ps p ih =>
    rw [groupValues_concat]
    exact (perm_ungroup_addValue p.1 p.2 _).trans (ih.append_right [p])

section Written

/-- A pair that can be told apart from its neighbours, and its key from its value, once it is written. -/
structure Writable (p : String × String) : Prop where
  comma_notMem_key : ',' ∉ p.1.toList
  equals_notMem_key : '=' ∉ p.1.toList
  comma_notMem_value : ',' ∉ p.2.toList

instance (p : String × String) : Decidable (Writable p) :=
  decidable_of_iff (',' ∉ p.1.toList ∧ '=' ∉ p.1.toList ∧ ',' ∉ p.2.toList)
    ⟨fun h => ⟨h.1, h.2.1, h.2.2⟩, fun h => ⟨h.1, h.2, h.3⟩⟩

def assignment (p : String × String) : String :=
  p.1 ++ "=" ++ p.2

/-- The chunks are the pairs as they are written, in their order, and any number of empty ones anywhere. -/
inductive Spaced : List (String × String) → List String → Prop
  | nil : Spaced [] []
  | empty {ps : List (String × String)} {chunks : List String} (h : Spaced ps chunks) :
      Spaced ps ("" :: chunks)
  | pair {ps : List (String × String)} {chunks : List String} (p : String × String)
      (h : Spaced ps chunks) : Spaced (p :: ps) (assignment p :: chunks)

theorem toList_assignment (p : String × String) :
    (assignment p).toList = p.1.toList ++ '=' :: p.2.toList := by
  rw [assignment, String.toList_append, String.toList_append, List.append_assoc]
  rfl

theorem assignment_toList_ne_nil (p : String × String) : (assignment p).toList ≠ [] := by
  rw [toList_assignment]
  exact List.append_ne_nil_of_right_ne_nil _ (List.cons_ne_nil _ _)

theorem Writable.comma_notMem_assignment {p : String × String} (h : Writable p) :
    ',' ∉ (assignment p).toList := by
  rw [toList_assignment, List.mem_append, List.mem_cons, not_or, not_or]
  exact ⟨h.comma_notMem_key, by decide, h.comma_notMem_value⟩

theorem Writable.gives_assignment {p : String × String} (h : Writable p) :
    Gives (assignment p).toList p := by
  have hgives : Gives (p.1.toList ++ '=' :: p.2.toList)
      (String.ofList p.1.toList, String.ofList p.2.toList) := .assigned h.equals_notMem_key
  rw [String.ofList_toList, String.ofList_toList, ← toList_assignment] at hgives
  exact hgives

theorem Gives.writable {chunk : List Char} {p : String × String} (h : Gives chunk p)
    (hcomma : ',' ∉ chunk) : Writable p := by
  cases h with
  | bare hkey => exact ⟨by simpa using hcomma, by simpa using hkey, by simp⟩
  | assigned hkey =>
    rw [List.mem_append, List.mem_cons, not_or, not_or] at hcomma
    exact ⟨by simpa using hcomma.1, by simpa using hkey, by simpa using hcomma.2.2⟩

theorem spaced_map (ps : List (String × String)) : Spaced ps (ps.map assignment) := by
  induction ps with
  | nil => exact .nil
  | cons p ps ih => exact .pair p ih

variable {ps : List (String × String)} {chunks : List String}

theorem Spaced.comma_notMem (h : Spaced ps chunks) (hps : ∀ p ∈ ps, Writable p) :
    ∀ chunk ∈ chunks.map String.toList, ',' ∉ chunk := by
  induction h with
  | nil => simp
  | empty h ih =>
    rw [List.map_cons, List.forall_mem_cons]
    exact ⟨by simp, ih hps⟩
  | pair p h ih =>
    rw [List.forall_mem_cons] at hps
    rw [List.map_cons, List.forall_mem_cons]
    exact ⟨hps.1.comma_notMem_assignment, ih hps.2⟩

theorem Spaced.gives (h : Spaced ps chunks) (hps : ∀ p ∈ ps, Writable p) :
    List.Forall₂ Gives ((chunks.map String.toList).filter (· ≠ [])) ps := by
  induction h with
  | nil => exact .nil
  | empty h ih =>
    rw [List.map_cons, List.filter_cons_of_neg (by simp)]
    exact ih hps
  | pair p h ih =>
    rw [List.forall_mem_cons] at hps
    rw [List.map_cons, List.filter_cons_of_pos (by simpa using assignment_toList_ne_nil p)]
    exact .cons hps.1.gives_assignment (ih hps.2)

theorem Spaced.writes (h : Spaced ps chunks) (hps : ∀ p ∈ ps, Writable p) :
    Writes (String.intercalate "," chunks) ps :=
  ⟨chunks.map String.toList, String.toList_intercalate, h.comma_notMem hps, h.gives hps⟩

theorem Writes.writable {parameter : String} (h : Writes parameter ps) : ∀ p ∈ ps, Writable p := by
  obtain ⟨chunks, -, hcommas, hgives⟩ := h
  intro p hp
  obtain ⟨chunk, hchunk, hp⟩ := exists_related hgives.flip hp
  exact hp.writable (hcommas chunk (List.mem_filter.mp hchunk).1)

theorem split_eq_of_writes {parameter : String} (h : Writes parameter ps) :
    split parameter = groupValues ps := by
  rw [split, (writes_iff parameter ps).mp h]

end Written

/-- Pairs that are written as a string are read from it as their groups, and every string is read as the pairs
of its own chunks are when they are written so. -/
theorem split_join :
    (∀ (ps : List (String × String)) (chunks : List String), (∀ p ∈ ps, Writable p) →
      Spaced ps chunks → (∀ groups, Grouped ps groups ↔ groups = split (String.intercalate "," chunks)) ∧
        (ungroup (split (String.intercalate "," chunks))).Perm ps) ∧
    ∀ parameter, ∃ ps, (∀ qs, Writes parameter qs ↔ qs = ps) ∧ (∀ p ∈ ps, Writable p) ∧
      Spaced ps (ps.map assignment) ∧
      ∀ chunks, Spaced ps chunks → split (String.intercalate "," chunks) = split parameter := by
  constructor
  · intro ps chunks hps hchunks
    rw [split_eq_of_writes (hchunks.writes hps)]
    exact ⟨fun groups => grouped_iff, perm_ungroup_groupValues ps⟩
  · intro parameter
    have hwrites : Writes parameter (pairs parameter) := (writes_iff parameter _).mpr rfl
    refine ⟨pairs parameter, writes_iff parameter, hwrites.writable, spaced_map _, ?_⟩
    intro chunks hchunks
    rw [split_eq_of_writes (hchunks.writes hwrites.writable), split_eq_of_writes hwrites]

/-- A key may come back, a value may hold an `=`, and key and value may be empty. -/
def serviceOptions : List (String × String) :=
  [("service", "web"), ("opt", "a=b"), ("service", ""), ("", "")]

def serviceChunks : List String :=
  ["", "service=web", "opt=a=b", "", "service=", "=", ""]

theorem serviceOptions_split :
    (∀ p ∈ serviceOptions, Writable p) ∧ Spaced serviceOptions serviceChunks ∧
      Grouped serviceOptions [("service", ["web", ""]), ("opt", ["a=b"]), ("", [""])] ∧
      split ",service=web,opt=a=b,,service=,=," =
        [("service", ["web", ""]), ("opt", ["a=b"]), ("", [""])] ∧
      split "opt=,service=web=x" = split ",opt,,service=web=x" := by
  have hps : ∀ p ∈ serviceOptions, Writable p := by decide
  have hchunks : Spaced serviceOptions serviceChunks :=
    .empty (.pair _ (.pair _ (.empty (.pair _ (.pair _ (.empty .nil))))))
  have hsplit : split ",service=web,opt=a=b,,service=,=," =
      [("service", ["web", ""]), ("opt", ["a=b"]), ("", [""])] := by decide
  refine ⟨hps, hchunks, ?_, hsplit, ?_⟩
  · exact ((split_join.1 _ _ hps hchunks).1 _).mpr hsplit.symm
  · obtain ⟨ps, hps, -, -, hjoin⟩ := split_join.2 ",opt,,service=web=x"
    have hwrites : Writes ",opt,,service=web=x" [("opt", ""), ("service", "web=x")] :=
      (writes_iff _ _).mpr (by decide)
    obtain rfl := (hps _).mp hwrites
    exact hjoin ["opt=", "service=web=x"] (.pair _ (.pair _ .nil))

end ProtoStubs.Parameters
