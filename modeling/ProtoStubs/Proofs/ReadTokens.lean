import Mathlib.Algebra.Group.Nat.Defs
import ProtoStubs.Wire.Node

/-!
# Reading tokens back

What is written as a varint, as a chunk or as a field is read back, and the bytes behind it are left. A
varint of `limit` bytes holds numbers below `128 ^ limit`; larger ones would need a byte more.
-/

namespace ProtoStubs.Wire

/-- Field numbers have 29 bits, so that a tag has 32. -/
def fieldLimit : Nat := 0x20000000

/-- The size of a message takes at most five bytes, of seven bits each. -/
def messageLimit : Nat := 0x800000000

theorem encodeVarint_ne_nil (n : Nat) : encodeVarint n ≠ [] := by
  rw [encodeVarint]
  split <;> simp

theorem toNat_toUInt8 {n : Nat} (h : n < 256) : n.toUInt8.toNat = n := by
  simp [Nat.mod_eq_of_lt h]

theorem decodeVarint_encodeVarint {limit n : Nat} (h : n < 128 ^ (limit + 1)) (rest : Bytes) :
    decodeVarint (limit + 1) (encodeVarint n ++ rest) = some (n, rest) := by
  induction limit generalizing n with
  | zero =>
    have hlast : n < 128 := by simpa using h
    rw [encodeVarint, if_pos hlast]
    simp [decodeVarint, toNat_toUInt8 (by omega : n < 256), hlast]
  | succ limit ih =>
    rw [encodeVarint]
    split
    · simp [decodeVarint, toNat_toUInt8 (by omega : n < 256), *]
    · have hhigh : n / 128 < 128 ^ (limit + 1) := by
        rw [Nat.div_lt_iff_lt_mul (by decide), ← Nat.pow_succ]
        exact h
      have hbyte := toNat_toUInt8 (by omega : n % 128 + 128 < 256)
      rw [List.cons_append, decodeVarint, hbyte, if_neg (by omega), ih hhigh]
      simp only [Option.map_some, Option.some.injEq, Prod.mk.injEq, and_true]
      omega

theorem decodeNumber_encodeVarint {n : Nat} (h : n < size64) (rest : Bytes) :
    decodeNumber (encodeVarint n ++ rest) = some (n, rest) := by
  have hlimit : n < 128 ^ (9 + 1) := Nat.lt_of_lt_of_le h (by decide)
  rw [decodeNumber, decodeVarint_encodeVarint hlimit]
  simp [Nat.mod_eq_of_lt h]

theorem decodeNumbers_encodeVarints {values : List Nat} (h : ∀ v ∈ values, v < size64) :
    decodeNumbers (values.flatMap encodeVarint) = some values := by
  induction values with
  | nil => simp [decodeNumbers]
  | cons v values ih =>
    rw [List.forall_mem_cons] at h
    have hread := decodeNumber_encodeVarint h.1 (values.flatMap encodeVarint)
    obtain ⟨b, bytes, hb⟩ := List.exists_cons_of_ne_nil (encodeVarint_ne_nil v)
    rw [hb, List.cons_append] at hread
    rw [List.flatMap_cons, hb, List.cons_append, decodeNumbers]
    split
    · simp_all
    · rename_i n rest hn
      rw [hread] at hn
      cases hn
      rw [ih h.2, Option.map_some]

theorem readChunk_encodeChunk {bytes : Bytes} (h : bytes.length < messageLimit) (rest : Bytes) :
    readChunk (encodeChunk bytes ++ rest) = some (bytes, rest) := by
  have hlimit : bytes.length < 128 ^ (4 + 1) := Nat.lt_of_lt_of_le h (by decide)
  rw [readChunk, encodeChunk, sizeLimit, List.append_assoc, decodeVarint_encodeVarint hlimit]
  simp [skipBytes_eq]

section Tokens

/-- The bytes that an ungrouped token with a field number is written as. -/
inductive Token.Written : Token → Bytes → Prop
  | number {field n : Nat} (hfield : 0 < field) (hlimit : field < fieldLimit) (hn : n < size64) :
      Written ⟨field, .number n⟩ (encodeTag field 0 ++ encodeVarint n)
  | fixed64 {field : Nat} {bytes : Bytes} (hfield : 0 < field) (hlimit : field < fieldLimit)
      (hbytes : bytes.length = 8) : Written ⟨field, .fixed⟩ (encodeTag field 1 ++ bytes)
  | chunk {field : Nat} {bytes : Bytes} (hfield : 0 < field) (hlimit : field < fieldLimit) :
      Written ⟨field, .chunk bytes⟩ (encodeTag field 2 ++ encodeChunk bytes)
  | fixed32 {field : Nat} {bytes : Bytes} (hfield : 0 < field) (hlimit : field < fieldLimit)
      (hbytes : bytes.length = 4) : Written ⟨field, .fixed⟩ (encodeTag field 5 ++ bytes)

theorem readToken_of_readPayload {field wireType : Nat} (hlimit : field < fieldLimit)
    (hwire : wireType < 8) {body rest : Bytes} {payload : Payload}
    (h : readPayload wireType body = some (payload, rest)) :
    readToken (encodeTag field wireType ++ body) = some (⟨field, payload⟩, rest) := by
  have htag : 8 * field + wireType < size32 := by
    simp only [fieldLimit, size32] at hlimit ⊢
    omega
  have hdiv : (8 * field + wireType) / 8 = field := by omega
  have hmod : (8 * field + wireType) % 8 = wireType := by omega
  have hbits : 8 * field + wireType < 128 ^ (4 + 1) := Nat.lt_of_lt_of_le htag (by decide)
  rw [readToken, encodeTag, sizeLimit, decodeVarint_encodeVarint hbits]
  simp [htag, hdiv, hmod, h]

theorem skipBytes_append {bytes : Bytes} {count : Nat} (h : bytes.length = count) (rest : Bytes) :
    skipBytes count (bytes ++ rest) = some rest := by
  subst h
  simp [skipBytes_eq]

theorem readToken_written {t : Token} {bytes : Bytes} (h : t.Written bytes)
    (hsize : bytes.length < messageLimit) (rest : Bytes) :
    readToken (bytes ++ rest) = some (t, rest) := by
  cases h with
  | number _ hlimit hn =>
    rw [List.append_assoc]
    apply readToken_of_readPayload hlimit (by decide)
    rw [readPayload, decodeNumber_encodeVarint hn, Option.map_some]
  | fixed64 _ hlimit hbytes =>
    rw [List.append_assoc]
    apply readToken_of_readPayload hlimit (by decide)
    rw [readPayload, skipBytes_append hbytes, Option.map_some]
  | @chunk field chunk _ hlimit =>
    have hchunk : chunk.length < messageLimit := by
      simp only [List.length_append, encodeChunk] at hsize
      omega
    rw [List.append_assoc]
    apply readToken_of_readPayload hlimit (by decide)
    rw [readPayload, readChunk_encodeChunk hchunk, Option.map_some]
  | fixed32 _ hlimit hbytes =>
    rw [List.append_assoc]
    apply readToken_of_readPayload hlimit (by decide)
    rw [readPayload, skipBytes_append hbytes, Option.map_some]

theorem Token.Written.ne_nil {t : Token} {bytes : Bytes} (h : t.Written bytes) : bytes ≠ [] := by
  cases h <;> simp [encodeTag, encodeVarint_ne_nil]

theorem tokens_written {t : Token} {bytes : Bytes} (h : t.Written bytes)
    (hsize : bytes.length < messageLimit) (rest : Bytes) :
    tokens (bytes ++ rest) = (tokens rest).map (t :: ·) := by
  have hread := readToken_written h hsize rest
  obtain ⟨b, tail, hb⟩ := List.exists_cons_of_ne_nil h.ne_nil
  rw [hb, List.cons_append] at hread
  rw [hb, List.cons_append, tokens]
  split
  · simp_all
  · rename_i t' rest' ht
    rw [hread] at ht
    cases ht
    rfl

theorem outsideGroups_written {t : Token} {bytes : Bytes} (h : t.Written bytes) (depth : Nat)
    (ts : List Token) :
    outsideGroups depth [] (t :: ts) = (outsideGroups depth [] ts).map (t :: ·) := by
  cases h <;> simp [outsideGroups, Nat.ne_of_gt, *]

end Tokens

end ProtoStubs.Wire
