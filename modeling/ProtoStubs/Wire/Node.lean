import ProtoStubs.Wire.Kind
import ProtoStubs.Wire.Token

/-! Messages on the wire as trees of known fields. Reading keeps the known fields in their order and
drops the unknown ones; writing is its inverse on trees of known fields. -/

namespace ProtoStubs.Wire

inductive Node
  | number (field value : Nat)
  | text (field : Nat) (content : String)
  | nested (field : Nat) (body : List Node)

/-- The most messages, and unknown groups, that may lie inside each other. -/
def depthLimit : Nat := 100

def encodeText (s : String) : Bytes := s.toUTF8.data.toList

def decodeText (bytes : Bytes) : Option String := String.fromUTF8? ⟨bytes.toArray⟩

/-- The known content of a field, nothing if the payload does not fit the field. A nested message
is read by `nested`. -/
def nodesOf (nested : Kind → Bytes → Option (List Node)) (kind : Kind) (t : Token) :
    Option (List Node) :=
  match kind.shape? t.field, t.payload with
  | some .text, .chunk bytes => (decodeText bytes).map fun s => [.text t.field s]
  | some .number, .number n => some [.number t.field n]
  | some .numbers, .number n => some [.number t.field n]
  | some .numbers, .chunk bytes => (decodeNumbers bytes).map (·.map (.number t.field))
  | some (.choice least greatest), .number n =>
    if least ≤ toInt32 n ∧ toInt32 n ≤ greatest then some [.number t.field n] else some []
  | some (.nested inner), .chunk bytes =>
    (nested inner bytes).map fun body => [.nested t.field body]
  | _, _ => some []

def readBody (nested : Kind → Bytes → Option (List Node)) (depth : Nat) (kind : Kind)
    (bytes : Bytes) : Option (List Node) := do
  let fields ← outsideGroups depth [] (← tokens bytes)
  return (← fields.mapM (nodesOf nested kind)).flatten

def readMessage : (depth : Nat) → Kind → Bytes → Option (List Node)
  | 0 => readBody (fun _ _ => none) 0
  | depth + 1 => readBody (readMessage depth) (depth + 1)

def encodeTag (field wireType : Nat) : Bytes := encodeVarint (8 * field + wireType)

def encodeChunk (bytes : Bytes) : Bytes := encodeVarint bytes.length ++ bytes

mutual

def Node.encode : Node → Bytes
  | .number field value => encodeTag field 0 ++ encodeVarint value
  | .text field content => encodeTag field 2 ++ encodeChunk (encodeText content)
  | .nested field body => encodeTag field 2 ++ encodeChunk (encodeNodes body)

def encodeNodes : List Node → Bytes
  | [] => []
  | n :: rest => n.encode ++ encodeNodes rest

end

theorem encodeNodes_eq_flatMap (nodes : List Node) :
    encodeNodes nodes = nodes.flatMap Node.encode := by
  induction nodes with
  | nil => rfl
  | cons n rest ih => simp [encodeNodes, ih]

def numbersIn (field : Nat) (nodes : List Node) : List Nat :=
  nodes.filterMap fun
    | .number f value => if f = field then some value else none
    | _ => none

def textsIn (field : Nat) (nodes : List Node) : List String :=
  nodes.filterMap fun
    | .text f content => if f = field then some content else none
    | _ => none

def bodiesIn (field : Nat) (nodes : List Node) : List (List Node) :=
  nodes.filterMap fun
    | .nested f body => if f = field then some body else none
    | _ => none

def number? (field : Nat) (nodes : List Node) : Option Nat := (numbersIn field nodes).getLast?

def int32? (field : Nat) (nodes : List Node) : Option Int := (number? field nodes).map toInt32

def bool? (field : Nat) (nodes : List Node) : Option Bool := (number? field nodes).map (· != 0)

def text? (field : Nat) (nodes : List Node) : Option String := (textsIn field nodes).getLast?

/-- The message in a field that holds one. Given in parts, it has the fields of all of them. -/
def body? (field : Nat) (nodes : List Node) : Option (List Node) :=
  match bodiesIn field nodes with
  | [] => none
  | bodies => some bodies.flatten

end ProtoStubs.Wire
