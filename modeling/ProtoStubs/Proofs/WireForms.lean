import ProtoStubs.Proofs.ReadTokens

/-!
# The wire forms of a message

A message may be written in many ways: its fields in any order, lists of numbers packed or not, and
fields that are not read between them. Whichever is chosen, the known fields are read back.
-/

namespace ProtoStubs.Wire

mutual

/-- How many messages lie inside each other below a node, its own included. -/
def Node.depth : Node → Nat
  | .nested _ body => nodesDepth body + 1
  | _ => 0

def nodesDepth : List Node → Nat
  | [] => 0
  | n :: rest => max n.depth (nodesDepth rest)

end

theorem nodesDepth_append (xs ys : List Node) :
    nodesDepth (xs ++ ys) = max (nodesDepth xs) (nodesDepth ys) := by
  induction xs with
  | nil => simp [nodesDepth]
  | cons n xs ih => simp [nodesDepth, ih, Nat.max_assoc]

/-- The bytes that a message of a kind may be written as, beside its known fields. -/
inductive Encodes : Kind → List Node → Bytes → Prop
  | nil {k : Kind} : Encodes k [] []
  | number {k : Kind} {field n : Nat} {nodes : List Node} {bytes : Bytes}
      (shape : k.shape? field = some .number ∨ k.shape? field = some .numbers) (size : n < size64)
      (rest : Encodes k nodes bytes) :
      Encodes k (.number field n :: nodes) (encodeTag field 0 ++ encodeVarint n ++ bytes)
  | packed {k : Kind} {field : Nat} {values : List Nat} {nodes : List Node} {bytes : Bytes}
      (shape : k.shape? field = some .numbers) (sizes : ∀ v ∈ values, v < size64)
      (rest : Encodes k nodes bytes) :
      Encodes k (values.map (.number field) ++ nodes)
        (encodeTag field 2 ++ encodeChunk (values.flatMap encodeVarint) ++ bytes)
  | choice {k : Kind} {field n : Nat} {least greatest : Int} {nodes : List Node} {bytes : Bytes}
      (shape : k.shape? field = some (.choice least greatest)) (size : n < size64)
      (range : least ≤ toInt32 n ∧ toInt32 n ≤ greatest) (rest : Encodes k nodes bytes) :
      Encodes k (.number field n :: nodes) (encodeTag field 0 ++ encodeVarint n ++ bytes)
  | text {k : Kind} {field : Nat} {content : String} {nodes : List Node} {bytes : Bytes}
      (shape : k.shape? field = some .text) (rest : Encodes k nodes bytes) :
      Encodes k (.text field content :: nodes)
        (encodeTag field 2 ++ encodeChunk (encodeText content) ++ bytes)
  | nested {k inner : Kind} {field : Nat} {body nodes : List Node} {bodyBytes bytes : Bytes}
      (shape : k.shape? field = some (.nested inner)) (content : Encodes inner body bodyBytes)
      (rest : Encodes k nodes bytes) :
      Encodes k (.nested field body :: nodes)
        (encodeTag field 2 ++ encodeChunk bodyBytes ++ bytes)
  /-- A field that is not read. -/
  | unread {k : Kind} {t : Token} {front : Bytes} {nodes : List Node} {bytes : Bytes}
      (shape : k.shape? t.field = none) (written : t.Written front) (rest : Encodes k nodes bytes) :
      Encodes k nodes (front ++ bytes)

theorem Kind.field_of_shape? {k : Kind} {field : Nat} {shape : Shape}
    (h : k.shape? field = some shape) : 0 < field ∧ field < fieldLimit := by
  have hfields : ∀ p ∈ k.fields, 0 < p.1 ∧ p.1 < fieldLimit := by cases k <;> decide
  obtain ⟨front, back, heq, -⟩ := List.lookup_eq_some_iff.mp h
  exact hfields (field, shape) (by simp [heq])

theorem decodeText_encodeText (s : String) : decodeText (encodeText s) = some s := by
  have hbytes : (⟨s.toUTF8.data.toList.toArray⟩ : ByteArray) = s.toUTF8 := by simp
  rw [decodeText, encodeText, hbytes, String.fromUTF8?, String.toUTF8_eq_toByteArray,
    dif_pos s.isValidUTF8]
  rfl

/-- What reads the messages inside one in which `depth` may lie inside each other. -/
def readInner : (depth : Nat) → Kind → Bytes → Option (List Node)
  | 0 => fun _ _ => none
  | depth + 1 => readMessage depth

theorem readMessage_eq (depth : Nat) : readMessage depth = readBody (readInner depth) depth := by
  cases depth <;> rfl

/-- A field at the front contributes what it holds, and leaves the others as they are. -/
theorem readMessage_append {depth : Nat} {k : Kind} {t : Token} {front bytes : Bytes}
    {nodes : List Node} (held : List Node) (ht : t.Written front) (hsize : (front ++ bytes).length < messageLimit)
    (hheld : nodesOf (readInner depth) k t = some held)
    (hrest : bytes.length < messageLimit → readMessage depth k bytes = some nodes) :
    readMessage depth k (front ++ bytes) = some (held ++ nodes) := by
  rw [List.length_append] at hsize
  have hrest := hrest (by omega)
  rw [readMessage_eq, readBody] at hrest ⊢
  simp only [bind, Option.bind_eq_some_iff, pure, Option.some.injEq] at hrest ⊢
  obtain ⟨ts, hts, fields, hfields, parts, hparts, rfl⟩ := hrest
  refine ⟨t :: ts, ?_, t :: fields, ?_, held :: parts, ?_, rfl⟩
  · rw [tokens_written ht (by omega), hts, Option.map_some]
  · rw [outsideGroups_written ht, hfields, Option.map_some]
  · simp [List.mapM_cons, hheld, hparts]

theorem readMessage_encodes {k : Kind} {nodes : List Node} {bytes : Bytes}
    (h : Encodes k nodes bytes) (hsize : bytes.length < messageLimit) {depth : Nat}
    (hdepth : nodesDepth nodes ≤ depth) : readMessage depth k bytes = some nodes := by
  induction h generalizing depth with
  | nil => simp [readMessage_eq, readBody, tokens, outsideGroups]
  | number shape size rest ih =>
    have hfield := shape.elim Kind.field_of_shape? Kind.field_of_shape?
    simp only [nodesDepth, Nat.max_le] at hdepth
    refine readMessage_append [_] (.number hfield.1 hfield.2 size) hsize ?_ fun h => ih h hdepth.2
    rcases shape with shape | shape <;> simp [nodesOf, shape]
  | packed shape sizes rest ih =>
    have hfield := Kind.field_of_shape? shape
    simp only [nodesDepth_append, Nat.max_le] at hdepth
    refine readMessage_append _ (.chunk hfield.1 hfield.2) hsize ?_ fun h => ih h hdepth.2
    simp [nodesOf, shape, decodeNumbers_encodeVarints sizes]
  | choice shape size range rest ih =>
    have hfield := Kind.field_of_shape? shape
    simp only [nodesDepth, Nat.max_le] at hdepth
    refine readMessage_append [_] (.number hfield.1 hfield.2 size) hsize ?_ fun h => ih h hdepth.2
    simp [nodesOf, shape, range]
  | text shape rest ih =>
    have hfield := Kind.field_of_shape? shape
    simp only [nodesDepth, Nat.max_le] at hdepth
    refine readMessage_append [_] (.chunk hfield.1 hfield.2) hsize ?_ fun h => ih h hdepth.2
    simp [nodesOf, shape, decodeText_encodeText]
  | nested shape content rest ihContent ih =>
    have hfield := Kind.field_of_shape? shape
    simp only [nodesDepth, Node.depth, Nat.max_le] at hdepth
    refine readMessage_append [_] (.chunk hfield.1 hfield.2) hsize ?_ fun h => ih h hdepth.2
    -- The message inside uses up one level.
    obtain ⟨depth, rfl⟩ := Nat.exists_eq_add_one_of_ne_zero (by omega : depth ≠ 0)
    simp only [encodeChunk, List.length_append] at hsize
    have hcontent := ihContent (by omega) (by omega : _ ≤ depth)
    simp [nodesOf, shape, readInner, hcontent]
  | unread shape written rest ih =>
    refine readMessage_append [] written hsize ?_ fun h => ih h hdepth
    simp [nodesOf, shape]

theorem Encodes.append {k : Kind} {front nodes : List Node} {bytes rest : Bytes}
    (h : Encodes k front bytes) (hrest : Encodes k nodes rest) :
    Encodes k (front ++ nodes) (bytes ++ rest) := by
  induction h with
  | nil => exact hrest
  | number shape size _ ih => simpa using Encodes.number shape size (ih hrest)
  | packed shape sizes _ ih => simpa using Encodes.packed shape sizes (ih hrest)
  | choice shape size range _ ih => simpa using Encodes.choice shape size range (ih hrest)
  | text shape _ ih => simpa using Encodes.text shape (ih hrest)
  | nested shape content _ _ ih => simpa using Encodes.nested shape content (ih hrest)
  | unread shape written _ ih => simpa using Encodes.unread shape written (ih hrest)

/-! ## The form that is written -/

/-- The known fields are fields of the kind, and their values can be written. -/
def Fits (k : Kind) (nodes : List Node) : Prop := Encodes k nodes (encodeNodes nodes)

section Fits

variable {k : Kind} {field : Nat}

theorem Fits.append {xs ys : List Node} (hx : Fits k xs) (hy : Fits k ys) : Fits k (xs ++ ys) := by
  have h := Encodes.append hx hy
  simp only [encodeNodes_eq_flatMap] at h
  rwa [Fits, encodeNodes_eq_flatMap, List.flatMap_append]

theorem Fits.map {α : Type} {xs : List α} {g : α → Node} (h : ∀ x ∈ xs, Fits k [g x]) :
    Fits k (xs.map g) := by
  induction xs with
  | nil => exact .nil
  | cons x xs ih =>
    rw [List.forall_mem_cons] at h
    exact Fits.append h.1 (ih h.2)

theorem Fits.optional {α : Type} {o : Option α} {g : α → Node} (h : ∀ x ∈ o, Fits k [g x]) :
    Fits k (o.map g).toList := by
  cases o with
  | none => exact .nil
  | some x => exact h x rfl

theorem fits_text (shape : k.shape? field = some .text) (s : String) : Fits k [.text field s] := by
  simpa [Fits, encodeNodes, Node.encode] using Encodes.text shape .nil

theorem fits_number (shape : k.shape? field = some .number) {n : Nat} (hn : n < size64) :
    Fits k [.number field n] := by
  simpa [Fits, encodeNodes, Node.encode] using Encodes.number (.inl shape) hn .nil

theorem fits_choice {least greatest : Int} (shape : k.shape? field = some (.choice least greatest))
    {n : Nat} (hn : n < size64) (range : least ≤ toInt32 n ∧ toInt32 n ≤ greatest) :
    Fits k [.number field n] := by
  simpa [Fits, encodeNodes, Node.encode] using Encodes.choice shape hn range .nil

theorem fits_nested {inner : Kind} (shape : k.shape? field = some (.nested inner))
    {body : List Node} (h : Fits inner body) : Fits k [.nested field body] := by
  simpa [Fits, encodeNodes, Node.encode] using Encodes.nested shape h .nil

end Fits

end ProtoStubs.Wire
