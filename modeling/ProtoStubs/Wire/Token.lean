import ProtoStubs.Wire.Varint

/-! The outer grammar of wire data: fields with a number and a payload, whatever they mean. -/

namespace ProtoStubs.Wire

inductive Payload
  | number (n : Nat)
  | chunk (bytes : Bytes)
  | fixed
  | groupStart
  | groupEnd
  deriving DecidableEq

structure Token where
  field : Nat
  payload : Payload
  deriving DecidableEq

def sizeLimit : Nat := 5

def skipBytes : (count : Nat) → Bytes → Option Bytes
  | 0, bytes => some bytes
  | count + 1, bytes =>
    match bytes.drop count with
    | [] => none
    | _ :: rest => some rest

theorem skipBytes_eq (count : Nat) (bytes : Bytes) :
    skipBytes count bytes = if count ≤ bytes.length then some (bytes.drop count) else none := by
  cases count with
  | zero => simp [skipBytes]
  | succ count =>
    by_cases h : count < bytes.length
    · simp only [skipBytes, List.drop_eq_getElem_cons h]
      rw [if_pos (by omega)]
    · have : bytes.drop count = [] := List.drop_eq_nil_of_le (Nat.le_of_not_lt h)
      simp only [skipBytes, this]
      rw [if_neg (by omega)]

def readChunk (bytes : Bytes) : Option (Bytes × Bytes) := do
  let (size, rest) ← decodeVarint sizeLimit bytes
  let after ← skipBytes size rest
  return (rest.take size, after)

def readPayload : (wireType : Nat) → Bytes → Option (Payload × Bytes)
  | 0, bytes => (decodeNumber bytes).map fun p => (.number p.1, p.2)
  | 1, bytes => (skipBytes 8 bytes).map fun rest => (.fixed, rest)
  | 2, bytes => (readChunk bytes).map fun p => (.chunk p.1, p.2)
  | 3, bytes => some (.groupStart, bytes)
  | 4, bytes => some (.groupEnd, bytes)
  | 5, bytes => (skipBytes 4 bytes).map fun rest => (.fixed, rest)
  | _, _ => none

def readToken (bytes : Bytes) : Option (Token × Bytes) := do
  let (tag, rest) ← decodeVarint sizeLimit bytes
  if tag < size32 then
    let (payload, after) ← readPayload (tag % 8) rest
    return (⟨tag / 8, payload⟩, after)
  else none

theorem skipBytes_length {count : Nat} {bytes rest : Bytes}
    (h : skipBytes count bytes = some rest) : rest.length ≤ bytes.length := by
  rw [skipBytes_eq] at h
  split at h
  · simp only [Option.some.injEq] at h
    simp [← h]
  · simp at h

theorem readChunk_length {bytes rest chunk : Bytes}
    (h : readChunk bytes = some (chunk, rest)) : rest.length < bytes.length := by
  obtain ⟨⟨size, body⟩, hp, he⟩ := Option.bind_eq_some_iff.1 h
  obtain ⟨after, ha, he⟩ := Option.bind_eq_some_iff.1 he
  simp only [pure, Option.some.injEq, Prod.mk.injEq] at he
  have := decodeVarint_length hp
  have := skipBytes_length ha
  rw [← he.2]
  omega

theorem readPayload_length {wireType : Nat} {bytes rest : Bytes} {payload : Payload}
    (h : readPayload wireType bytes = some (payload, rest)) : rest.length ≤ bytes.length := by
  unfold readPayload at h
  split at h
  · obtain ⟨⟨n, after⟩, hp, he⟩ := Option.map_eq_some_iff.1 h
    simp only [Prod.mk.injEq] at he
    exact he.2 ▸ Nat.le_of_lt (decodeNumber_length hp)
  · obtain ⟨p, hp, he⟩ := Option.map_eq_some_iff.1 h
    simp only [Prod.mk.injEq] at he
    exact he.2 ▸ skipBytes_length hp
  · obtain ⟨⟨chunk, after⟩, hp, he⟩ := Option.map_eq_some_iff.1 h
    simp only [Prod.mk.injEq] at he
    exact he.2 ▸ Nat.le_of_lt (readChunk_length hp)
  · simp only [Option.some.injEq, Prod.mk.injEq] at h
    simp [h.2]
  · simp only [Option.some.injEq, Prod.mk.injEq] at h
    simp [h.2]
  · obtain ⟨p, hp, he⟩ := Option.map_eq_some_iff.1 h
    simp only [Prod.mk.injEq] at he
    exact he.2 ▸ skipBytes_length hp
  · simp at h

theorem readToken_length {bytes rest : Bytes} {t : Token}
    (h : readToken bytes = some (t, rest)) : rest.length < bytes.length := by
  obtain ⟨⟨tag, body⟩, hp, he⟩ := Option.bind_eq_some_iff.1 h
  dsimp only at he
  split at he
  · obtain ⟨⟨payload, after⟩, hq, he⟩ := Option.bind_eq_some_iff.1 he
    simp only [pure, Option.some.injEq, Prod.mk.injEq] at he
    have := decodeVarint_length hp
    have := readPayload_length hq
    rw [← he.2]
    omega
  · simp at he

def tokens (bytes : Bytes) : Option (List Token) :=
  match bytes with
  | [] => some []
  | b :: tail =>
    match _h : readToken (b :: tail) with
    | none => none
    | some (t, rest) => (tokens rest).map (t :: ·)
termination_by bytes.length
decreasing_by exact readToken_length ‹_›

/-- The tokens outside all groups. Each group has to be closed by its own number, and no more than
`depth` may be open at a time; `opened` lists the numbers of those that are, the innermost
first. No field outside the groups has the number zero; inside a group the numbers are free. -/
def outsideGroups (depth : Nat) : (opened : List Nat) → List Token → Option (List Token)
  | [], [] => some []
  | _ :: _, [] => none
  | opened, t :: rest =>
    if opened = [] ∧ t.field = 0 then none
    else match t.payload with
      | .groupStart =>
        if opened.length < depth then outsideGroups depth (t.field :: opened) rest else none
      | .groupEnd =>
        match opened with
        | [] => none
        | number :: outer => if number = t.field then outsideGroups depth outer rest else none
      | _ =>
        if opened = [] then (outsideGroups depth opened rest).map (t :: ·)
        else outsideGroups depth opened rest

end ProtoStubs.Wire
