import ProtoStubs.Parameter

/-!
# The values of a key

A parameter string gives a key the values of all its chunks with this key, in their order. Grouping the
chunks keeps them, whatever other chunks stand between.
-/

namespace ProtoStubs.Parameters

def given (key : String) (parameter : String) : List String :=
  ((pairs parameter).filter (·.1 == key)).map (·.2)

theorem lookup_cons_getD (key k : String) (values : List String)
    (groups : List (String × List String)) :
    (((k, values) :: groups).lookup key).getD [] =
      if k = key then values else (groups.lookup key).getD [] := by
  by_cases h : k = key
  · simp [h]
  · have hne : (key == k) = false := beq_eq_false_iff_ne.mpr fun hk => h hk.symm
    rw [List.lookup_cons, hne, if_neg h]

theorem lookup_addValue (key k value : String) (groups : List (String × List String)) :
    ((addValue k value groups).lookup key).getD [] =
      (groups.lookup key).getD [] ++ if k = key then [value] else [] := by
  induction groups with
  | nil => simp [addValue, lookup_cons_getD]
  | cons group rest ih =>
    obtain ⟨k', values⟩ := group
    rw [addValue, lookup_cons_getD]
    by_cases hk : k' = k
    · rw [if_pos hk, lookup_cons_getD, hk]
      by_cases h : k = key <;> simp [h]
    · rw [if_neg hk, lookup_cons_getD, ih]
      by_cases h : k' = key
      · have hne : k ≠ key := fun hkey => hk (h.trans hkey.symm)
        simp [h, hne]
      · simp [h]

theorem lookup_foldl_addValue (key : String) (ps : List (String × String))
    (groups : List (String × List String)) :
    ((ps.foldl (fun groups p => addValue p.1 p.2 groups) groups).lookup key).getD [] =
      (groups.lookup key).getD [] ++ (ps.filter (·.1 == key)).map (·.2) := by
  induction ps generalizing groups with
  | nil => simp
  | cons p ps ih =>
    rw [List.foldl_cons, ih, lookup_addValue, List.append_assoc]
    by_cases h : p.1 = key <;> simp [h]

theorem valuesOf_split (key : ParameterKey) (parameter : String) :
    valuesOf key (split parameter) = given key.name parameter := by
  rw [valuesOf, split, groupValues, lookup_foldl_addValue, given]
  rfl

theorem single_eq_ok_some {key : ParameterKey} {groups : List (String × List String)}
    {value : String} : single key groups = .ok (some value) ↔ valuesOf key groups = [value] := by
  unfold single
  split <;> simp_all

/-- There is a notice exactly if the service is given once, by its old name. -/
theorem notices_eq (parameter : String) :
    notices parameter =
      if given "service" parameter = ["true"] then [.deprecatedServiceTrue] else [] := by
  have hgiven : given "service" parameter = ["true"] ↔
      single .service (split parameter) = .ok (some "true") := by
    rw [single_eq_ok_some, valuesOf_split]
    rfl
  unfold notices
  by_cases h : given "service" parameter = ["true"]
  · rw [if_pos h, hgiven.mp h]
    rfl
  · rw [if_neg h]
    cases hsingle : single .service (split parameter) with
    | error e => rfl
    | ok value =>
      have hne : value ≠ some "true" := by
        rintro rfl
        exact h (hgiven.mpr hsingle)
      exact if_neg hne

end ProtoStubs.Parameters
