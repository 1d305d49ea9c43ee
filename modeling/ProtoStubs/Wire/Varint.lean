/-! Numbers of variable length: seven bits a byte from the low end, the top bit set on every byte
but the last. -/

namespace ProtoStubs

abbrev Bytes := List UInt8

namespace Wire

def encodeVarint (n : Nat) : Bytes :=
  if n < 128 then [n.toUInt8] else (n % 128 + 128).toUInt8 :: encodeVarint (n / 128)

/-- The number at the front, of at most `limit` bytes, and the bytes after it. It need not have the
shortest form. -/
def decodeVarint : (limit : Nat) → Bytes → Option (Nat × Bytes)
  | 0, _ => none
  | _, [] => none
  | limit + 1, b :: rest =>
    if b.toNat < 128 then some (b.toNat, rest)
    else (decodeVarint limit rest).map fun p => (b.toNat % 128 + 128 * p.1, p.2)

theorem decodeVarint_length {limit : Nat} {bytes rest : Bytes} {n : Nat}
    (h : decodeVarint limit bytes = some (n, rest)) : rest.length < bytes.length := by
  induction limit generalizing bytes n rest with
  | zero => simp [decodeVarint] at h
  | succ limit ih =>
    cases bytes with
    | nil => simp [decodeVarint] at h
    | cons b tail =>
      simp only [decodeVarint] at h
      split at h
      · simp only [Option.some.injEq, Prod.mk.injEq] at h
        simp [← h.2]
      · obtain ⟨⟨high, after⟩, hp, he⟩ := Option.map_eq_some_iff.1 h
        have := ih hp
        simp only [Prod.mk.injEq] at he
        simp only [List.length_cons, ← he.2]
        omega

def size32 : Nat := 0x100000000

def size64 : Nat := 0x10000000000000000

/-- A 64-bit number at the front. Of a tenth byte only the lowest bit counts. -/
def decodeNumber (bytes : Bytes) : Option (Nat × Bytes) :=
  (decodeVarint 10 bytes).map fun p => (p.1 % size64, p.2)

theorem decodeNumber_length {bytes rest : Bytes} {n : Nat}
    (h : decodeNumber bytes = some (n, rest)) : rest.length < bytes.length := by
  obtain ⟨⟨value, after⟩, hp, he⟩ := Option.map_eq_some_iff.1 h
  simp only [Prod.mk.injEq] at he
  exact he.2 ▸ decodeVarint_length hp

def decodeNumbers (bytes : Bytes) : Option (List Nat) :=
  match bytes with
  | [] => some []
  | b :: tail =>
    match _h : decodeNumber (b :: tail) with
    | none => none
    | some (n, rest) => (decodeNumbers rest).map (n :: ·)
termination_by bytes.length
decreasing_by exact decodeNumber_length ‹_›

def toInt32 (n : Nat) : Int := Int.bmod n size32

def ofInt (i : Int) : Nat := (i % size64).toNat

end Wire

end ProtoStubs
