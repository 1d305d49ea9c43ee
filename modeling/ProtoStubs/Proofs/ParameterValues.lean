import Mathlib.Data.List.Forall2
import Mathlib.Data.List.TakeWhile
import ProtoStubs.Proofs.Grouping
import ProtoStubs.Proofs.Success

/-!
# The grammar of the parameter string

A parameter string is a sequence of chunks with commas between them. The chunks that are not empty give a
value to a key each, and the values of `service` and those of `mode` settle what a run does with the string:
which settings it takes from it, which of the two keys it faults, and what it tells its user.
-/

namespace ProtoStubs

namespace Text

theorem splitChars_eq_splitOn (sep : Char) (cs : List Char) : splitChars sep cs = cs.splitOn sep := by
  induction cs with
  | nil => exact (List.splitOn_nil sep).symm
  | cons c cs ih =>
    rw [splitChars, ih, List.splitOn, List.splitOn, List.splitOnP_cons_eq_if_modifyHead]
    by_cases h : c = sep
    · rw [if_pos h, if_pos (beq_iff_eq.mpr h)]
    · rw [if_neg h, if_neg fun hb => h (beq_iff_eq.mp hb)]

theorem not_mem_of_mem_splitChars {sep : Char} {cs piece : List Char}
    (h : piece ∈ splitChars sep cs) : sep ∉ piece := by
  induction cs generalizing piece with
  | nil =>
    rw [List.mem_singleton.mp h]
    exact List.not_mem_nil
  | cons c cs ih =>
    rw [splitChars] at h
    by_cases hc : c = sep
    · rw [if_pos hc, List.mem_cons] at h
      rcases h with rfl | h
      · exact List.not_mem_nil
      · exact ih h
    · obtain ⟨first, pieces, hsplit⟩ := exists_splitChars sep cs
      rw [hsplit] at ih
      rw [if_neg hc, hsplit, List.modifyHead_cons, List.mem_cons] at h
      rcases h with rfl | h
      · rw [List.mem_cons, not_or]
        exact ⟨Ne.symm hc, ih List.mem_cons_self⟩
      · exact ih (List.mem_cons_of_mem _ h)

end Text

namespace Parameters

/-- The key and the value that a chunk gives: its first `=` stands between them, and a chunk without one is
a key with an empty value. -/
inductive Gives : List Char → String × String → Prop
  | bare {key : List Char} (h : '=' ∉ key) : Gives key (String.ofList key, "")
  | assigned {key value : List Char} (h : '=' ∉ key) :
      Gives (key ++ '=' :: value) (String.ofList key, String.ofList value)

/-- The parameter string has the given keys and values in the chunks between its commas, the empty chunks
left out. -/
def Writes (parameter : String) (ps : List (String × String)) : Prop :=
  ∃ chunks : List (List Char), parameter.toList = [','].intercalate chunks ∧
    (∀ chunk ∈ chunks, ',' ∉ chunk) ∧ List.Forall₂ Gives (chunks.filter (· ≠ [])) ps

def valuesIn (key : String) (ps : List (String × String)) : List String :=
  (ps.filter (·.1 == key)).map (·.2)

theorem forall_ne_equals {key : List Char} (h : '=' ∉ key) : ∀ c ∈ key, (c != '=') = true := by
  intro c hc
  exact bne_iff_ne.mpr fun heq => h (heq ▸ hc)

theorem cutChunk_assigned {key : List Char} (h : '=' ∉ key) (value : List Char) :
    cutChunk (key ++ '=' :: value) = (String.ofList key, String.ofList value) := by
  have hkey := forall_ne_equals h
  rw [cutChunk, List.takeWhile_append_of_pos hkey, List.dropWhile_append_of_pos hkey,
    List.takeWhile_cons_of_neg (by decide), List.dropWhile_cons_of_neg (by decide), List.append_nil,
    List.drop_one, List.tail_cons]

theorem cutChunk_bare {key : List Char} (h : '=' ∉ key) : cutChunk key = (String.ofList key, "") := by
  have hkey := forall_ne_equals h
  rw [cutChunk, List.takeWhile_eq_self_iff.mpr hkey, List.dropWhile_eq_nil_iff.mpr hkey]
  rfl

theorem gives_iff (chunk : List Char) (p : String × String) : Gives chunk p ↔ p = cutChunk chunk := by
  constructor
  · intro h
    cases h with
    | bare h => exact (cutChunk_bare h).symm
    | assigned h => exact (cutChunk_assigned h _).symm
  · rintro rfl
    by_cases h : '=' ∈ chunk
    · obtain ⟨key, value, rfl, hkey⟩ := List.eq_append_cons_of_mem h
      rw [cutChunk_assigned hkey]
      exact .assigned hkey
    · rw [cutChunk_bare h]
      exact .bare h

theorem forall₂_gives_iff {chunks : List (List Char)} {ps : List (String × String)} :
    List.Forall₂ Gives chunks ps ↔ ps = chunks.map cutChunk := by
  induction chunks generalizing ps with
  | nil => rw [List.forall₂_nil_left_iff, List.map_nil]
  | cons chunk chunks ih =>
    rw [List.forall₂_cons_left_iff, List.map_cons]
    constructor
    · intro h
      obtain ⟨p, ps, hp, hps, rfl⟩ := h
      rw [(gives_iff chunk p).mp hp, ih.mp hps]
    · rintro rfl
      exact ⟨_, _, (gives_iff chunk _).mpr rfl, ih.mpr rfl, rfl⟩

theorem pairs_eq (parameter : String) :
    pairs parameter =
      ((Text.splitChars ',' parameter.toList).filter (· ≠ [])).map cutChunk := by
  rw [pairs]
  congr 1
  apply List.filter_congr
  intro chunk _
  cases chunk <;> rfl

theorem writes_iff (parameter : String) (ps : List (String × String)) :
    Writes parameter ps ↔ ps = pairs parameter := by
  rw [pairs_eq, Text.splitChars_eq_splitOn]
  constructor
  · intro h
    obtain ⟨chunks, htext, hcommas, hgives⟩ := h
    rw [forall₂_gives_iff] at hgives
    by_cases hne : chunks = []
    · subst hne
      rw [htext, hgives]
      rfl
    · rw [htext, List.splitOn_intercalate ',' hcommas hne, hgives]
  · rintro rfl
    refine ⟨parameter.toList.splitOn ',', (List.intercalate_splitOn ',').symm, ?_,
      forall₂_gives_iff.mpr rfl⟩
    rw [← Text.splitChars_eq_splitOn]
    intro chunk hchunk
    exact Text.not_mem_of_mem_splitChars hchunk

end Parameters

/-- The variant that the values of `service` denote together. -/
inductive ServiceVariant.Selected : List String → ServiceVariant → Prop
  | absent : Selected [] .none
  | formerName : Selected ["true"] .grpcWeb
  | web : Selected ["grpc-web"] .grpcWeb
  | promise : Selected ["grpc-promise"] .grpcPromise
  | node : Selected ["grpc-node"] .grpcNode

/-- The mode that the values of `mode` denote together. -/
inductive Mode.Selected : List String → Mode → Prop
  | absent : Selected [] .none
  | grpcJs : Selected ["grpc-js"] .grpcJs

namespace Parameters

/-- What the values of the two keys settle. A fault of the service is reported before one of the mode. -/
inductive Outcome (services modes : List String) : Except GenerationError Parameters → Prop
  | settings {service : ServiceVariant} {mode : Mode} (hservice : service.Selected services)
      (hmode : mode.Selected modes) : Outcome services modes (.ok { service, mode })
  | service (h : ∀ service, ¬ ServiceVariant.Selected services service) :
      Outcome services modes (.error (.parameter .service services))
  | mode {service : ServiceVariant} (hservice : service.Selected services)
      (h : ∀ mode, ¬ Mode.Selected modes mode) :
      Outcome services modes (.error (.parameter .mode modes))

/-- The setting chosen by the values of a key: the default without a value, the meaning of the value if there
is one, and nothing if there are several. -/
def choice {α : Type} (absent : α) (ofValue? : String → Option α) : List String → Option α
  | [] => some absent
  | [value] => ofValue? value
  | _ => none

end Parameters

open Parameters (choice)

theorem ServiceVariant.selected_iff {values : List String} {service : ServiceVariant} :
    service.Selected values ↔ choice .none ofValue? values = some service := by
  constructor
  · intro h
    cases h <;> rfl
  · intro h
    match values with
    | [] => cases h; exact .absent
    | [value] =>
      simp only [choice, ofValue?] at h
      split at h <;> cases h
      · exact .formerName
      · exact .web
      · exact .promise
      · exact .node
    | _ :: _ :: _ => cases h

theorem Mode.selected_iff {values : List String} {mode : Mode} :
    mode.Selected values ↔ choice .none ofValue? values = some mode := by
  constructor
  · intro h
    cases h <;> rfl
  · intro h
    match values with
    | [] => cases h; exact .absent
    | [value] =>
      simp only [choice, ofValue?] at h
      split at h <;> cases h
      exact .grpcJs
    | _ :: _ :: _ => cases h

namespace Parameters

theorem single_bind_decode {α : Type} (key : ParameterKey) (groups : List (String × List String))
    (decode : Option String → Except GenerationError α) (absent : α) (ofValue? : String → Option α)
    (habsent : decode none = .ok absent)
    (hvalue : ∀ value, decode (some value) = require (.parameter key [value]) (ofValue? value)) :
    (single key groups >>= decode) =
      require (.parameter key (valuesOf key groups)) (choice absent ofValue? (valuesOf key groups)) := by
  unfold single
  match valuesOf key groups with
  | [] => exact habsent
  | [value] => exact hvalue value
  | _ :: _ :: _ => rfl

theorem parse_eq (parameter : String) :
    parse parameter = do
      let service ← require (.parameter .service (given "service" parameter))
        (choice .none ServiceVariant.ofValue? (given "service" parameter))
      let mode ← require (.parameter .mode (given "mode" parameter))
        (choice .none Mode.ofValue? (given "mode" parameter))
      return { service, mode } := by
  have hservice : (single .service (split parameter) >>= ServiceVariant.decode) =
      require (.parameter .service (given "service" parameter))
        (choice .none ServiceVariant.ofValue? (given "service" parameter)) := by
    rw [single_bind_decode .service _ _ .none ServiceVariant.ofValue? rfl fun _ => rfl, valuesOf_split]
    rfl
  have hmode : (single .mode (split parameter) >>= Mode.decode) =
      require (.parameter .mode (given "mode" parameter))
        (choice .none Mode.ofValue? (given "mode" parameter)) := by
    rw [single_bind_decode .mode _ _ .none Mode.ofValue? rfl fun _ => rfl, valuesOf_split]
    rfl
  rw [← hservice, ← hmode]
  simp only [parse, bind_assoc]

theorem outcome_iff (parameter : String) (result : Except GenerationError Parameters) :
    Outcome (given "service" parameter) (given "mode" parameter) result ↔ parse parameter = result := by
  rw [parse_eq]
  constructor
  · intro h
    cases h with
    | settings hservice hmode =>
      rw [ServiceVariant.selected_iff.mp hservice, Mode.selected_iff.mp hmode]
      rfl
    | service h =>
      have hnone : choice .none ServiceVariant.ofValue? (given "service" parameter) = none := by
        apply Option.eq_none_iff_forall_ne_some.mpr
        intro service heq
        exact h service (ServiceVariant.selected_iff.mpr heq)
      rw [hnone]
      rfl
    | mode hservice h =>
      have hnone : choice .none Mode.ofValue? (given "mode" parameter) = none := by
        apply Option.eq_none_iff_forall_ne_some.mpr
        intro mode heq
        exact h mode (Mode.selected_iff.mpr heq)
      rw [ServiceVariant.selected_iff.mp hservice, hnone]
      rfl
  · rintro rfl
    cases hservice : choice .none ServiceVariant.ofValue? (given "service" parameter) with
    | none =>
      apply Outcome.service
      intro service h
      rw [ServiceVariant.selected_iff.mp h] at hservice
      cases hservice
    | some service =>
      cases hmode : choice .none Mode.ofValue? (given "mode" parameter) with
      | none =>
        apply Outcome.mode (ServiceVariant.selected_iff.mpr hservice)
        intro mode h
        rw [Mode.selected_iff.mp h] at hmode
        cases hmode
      | some mode =>
        exact Outcome.settings (ServiceVariant.selected_iff.mpr hservice) (Mode.selected_iff.mpr hmode)

theorem parse_congr {p q : String} (hservice : given "service" q = given "service" p)
    (hmode : given "mode" q = given "mode" p) : parse q = parse p ∧ notices q = notices p := by
  constructor
  · rw [parse_eq, parse_eq, hservice, hmode]
  · rw [notices_eq, notices_eq, hservice]

theorem succeeds_parse_iff (parameter : String) :
    Succeeds (parse parameter) ↔
      (∃ service, ServiceVariant.Selected (given "service" parameter) service) ∧
        ∃ mode, Mode.Selected (given "mode" parameter) mode := by
  constructor
  · intro h
    obtain ⟨parameters, h⟩ := h
    cases (outcome_iff parameter _).mpr h with
    | settings hservice hmode => exact ⟨⟨_, hservice⟩, _, hmode⟩
  · intro h
    obtain ⟨⟨service, hservice⟩, mode, hmode⟩ := h
    exact ⟨_, (outcome_iff parameter _).mp (.settings hservice hmode)⟩

/-- The string is read by its grammar and by nothing else. -/
theorem parse_grammar (parameter : String) :
    ∃ ps, (∀ qs, Writes parameter qs ↔ qs = ps) ∧
      (Succeeds (parse parameter) ↔
        (∃ service, ServiceVariant.Selected (valuesIn "service" ps) service) ∧
          ∃ mode, Mode.Selected (valuesIn "mode" ps) mode) ∧
      (∀ result, parse parameter = result ↔
        Outcome (valuesIn "service" ps) (valuesIn "mode" ps) result) ∧
      ((∀ service, ¬ ServiceVariant.Selected (valuesIn "service" ps) service) →
        ∃ e, parse parameter = .error e ∧ e.message =
          "Unrecognised service parameter: " ++ String.intercalate "," (valuesIn "service" ps)) ∧
      ((∃ service, ServiceVariant.Selected (valuesIn "service" ps) service) →
        (∀ mode, ¬ Mode.Selected (valuesIn "mode" ps) mode) →
        ∃ e, parse parameter = .error e ∧ e.message =
          "Unrecognised mode parameter: " ++ String.intercalate "," (valuesIn "mode" ps)) ∧
      ∀ other qs, Writes other qs → valuesIn "service" qs = valuesIn "service" ps →
        valuesIn "mode" qs = valuesIn "mode" ps →
        parse other = parse parameter ∧ notices other = notices parameter := by
  refine ⟨pairs parameter, writes_iff parameter, succeeds_parse_iff parameter, ?_, ?_, ?_, ?_⟩
  · intro result
    exact (outcome_iff parameter result).symm
  · intro hservice
    exact ⟨_, (outcome_iff parameter _).mp (.service hservice), rfl⟩
  · intro hservice hmode
    obtain ⟨service, hservice⟩ := hservice
    exact ⟨_, (outcome_iff parameter _).mp (.mode hservice hmode), rfl⟩
  · intro other qs hother hservice hmode
    obtain rfl := (writes_iff other qs).mp hother
    exact parse_congr hservice hmode

/-- Spaces belong to a key, an empty chunk is nothing, and only the first `=` separates. -/
example : pairs "a,, service=b,mode==c" = [("a", ""), (" service", "b"), ("mode", "=c")] := by
  decide

end Parameters

end ProtoStubs
