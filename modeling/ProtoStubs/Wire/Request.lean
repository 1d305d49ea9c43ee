import ProtoStubs.Descriptor
import ProtoStubs.Wire.Node

/-! Requests on the wire. -/

namespace ProtoStubs.Wire

open Descriptor

def fieldOptionsOf (nodes : List Node) : FieldOptions where
  jsType := int32? 6 nodes

def fieldOf (nodes : List Node) : Field where
  name := text? 1 nodes
  number := int32? 3 nodes
  label := int32? 4 nodes
  type := int32? 5 nodes
  typeName := text? 6 nodes
  oneofIndex := int32? 9 nodes
  proto3Optional := bool? 17 nodes
  options := (body? 8 nodes).map fieldOptionsOf

def enumValueOf (nodes : List Node) : EnumValue where
  name := text? 1 nodes
  number := int32? 2 nodes

def enumOf (nodes : List Node) : Descriptor.Enum where
  name := text? 1 nodes
  values := (bodiesIn 2 nodes).map enumValueOf

def oneofOf (nodes : List Node) : Oneof where
  name := text? 1 nodes

def messageOptionsOf (nodes : List Node) : MessageOptions where
  mapEntry := bool? 7 nodes

def messageWith (nodes : List Node) (nested : List Message) : Message where
  name := text? 1 nodes
  fields := (bodiesIn 2 nodes).map fieldOf
  nested := nested
  enums := (bodiesIn 4 nodes).map enumOf
  oneofs := (bodiesIn 8 nodes).map oneofOf
  extensions := (bodiesIn 6 nodes).map fieldOf
  options := (body? 7 nodes).map messageOptionsOf

mutual

/-- The message in a node, if it is one of this field. Inside messages, nested ones are in field
three. -/
def Node.message? (field : Nat) : Node → Option Message
  | .nested f body => if f = field then some (messageWith body (messagesIn 3 body)) else none
  | _ => none

def messagesIn (field : Nat) : List Node → List Message
  | [] => []
  | n :: rest => (n.message? field).toList ++ messagesIn field rest

end

theorem messagesIn_eq_map (field : Nat) (nodes : List Node) :
    messagesIn field nodes =
      (bodiesIn field nodes).map fun body => messageWith body (messagesIn 3 body) := by
  induction nodes with
  | nil => rfl
  | cons n rest ih =>
    cases n with
    | number f value => simpa [messagesIn, Node.message?, bodiesIn] using ih
    | text f content => simpa [messagesIn, Node.message?, bodiesIn] using ih
    | nested f body => by_cases h : f = field <;> simp_all [messagesIn, Node.message?, bodiesIn]

def methodOf (nodes : List Node) : Method where
  name := text? 1 nodes
  inputType := text? 2 nodes
  outputType := text? 3 nodes
  clientStreaming := bool? 5 nodes
  serverStreaming := bool? 6 nodes

def serviceOf (nodes : List Node) : Service where
  name := text? 1 nodes
  methods := (bodiesIn 2 nodes).map methodOf

def fileOf (nodes : List Node) : File where
  name := text? 1 nodes
  package := text? 2 nodes
  dependencies := textsIn 3 nodes
  messages := messagesIn 4 nodes
  enums := (bodiesIn 5 nodes).map enumOf
  services := (bodiesIn 6 nodes).map serviceOf
  extensions := (bodiesIn 7 nodes).map fieldOf
  dialect := text? 12 nodes

def requestOf (nodes : List Node) : Request where
  filesToGenerate := textsIn 1 nodes
  parameter := text? 2 nodes
  files := (bodiesIn 15 nodes).map fileOf

def decodeRequest (bytes : Bytes) : Option Request :=
  (readMessage depthLimit .request bytes).map requestOf

def optionalText (field : Nat) (s : Option String) : List Node := (s.map (.text field)).toList

def optionalInt (field : Nat) (i : Option Int) : List Node :=
  (i.map fun i => .number field (ofInt i)).toList

def optionalBool (field : Nat) (b : Option Bool) : List Node :=
  (b.map fun b => .number field b.toNat).toList

def optionalNested (field : Nat) (body : Option (List Node)) : List Node :=
  (body.map (.nested field)).toList

def fieldOptionsNodes (o : FieldOptions) : List Node := optionalInt 6 o.jsType

def fieldNodes (d : Field) : List Node :=
  optionalText 1 d.name ++ optionalInt 3 d.number ++ optionalInt 4 d.label ++
    optionalInt 5 d.type ++ optionalText 6 d.typeName ++
    optionalNested 8 (d.options.map fieldOptionsNodes) ++ optionalInt 9 d.oneofIndex ++
    optionalBool 17 d.proto3Optional

def enumValueNodes (d : EnumValue) : List Node := optionalText 1 d.name ++ optionalInt 2 d.number

def enumNodes (d : Descriptor.Enum) : List Node :=
  optionalText 1 d.name ++ d.values.map fun v => .nested 2 (enumValueNodes v)

def oneofNodes (d : Oneof) : List Node := optionalText 1 d.name

def messageOptionsNodes (o : MessageOptions) : List Node := optionalBool 7 o.mapEntry

mutual

def messageNodes : Message → List Node
  | ⟨name, fields, nested, enums, oneofs, extensions, options⟩ =>
    optionalText 1 name ++ (fields.map fun d => .nested 2 (fieldNodes d)) ++
      nestedMessageNodes 3 nested ++ (enums.map fun d => .nested 4 (enumNodes d)) ++
      (extensions.map fun d => .nested 6 (fieldNodes d)) ++
      optionalNested 7 (options.map messageOptionsNodes) ++
      oneofs.map fun d => .nested 8 (oneofNodes d)

def nestedMessageNodes (field : Nat) : List Message → List Node
  | [] => []
  | m :: rest => .nested field (messageNodes m) :: nestedMessageNodes field rest

end

theorem nestedMessageNodes_eq_map (field : Nat) (ms : List Message) :
    nestedMessageNodes field ms = ms.map fun m => .nested field (messageNodes m) := by
  induction ms with
  | nil => rfl
  | cons m rest ih => simp [nestedMessageNodes, ih]

def methodNodes (d : Method) : List Node :=
  optionalText 1 d.name ++ optionalText 2 d.inputType ++ optionalText 3 d.outputType ++
    optionalBool 5 d.clientStreaming ++ optionalBool 6 d.serverStreaming

def serviceNodes (d : Service) : List Node :=
  optionalText 1 d.name ++ d.methods.map fun m => .nested 2 (methodNodes m)

def fileNodes (d : File) : List Node :=
  optionalText 1 d.name ++ optionalText 2 d.package ++ d.dependencies.map (.text 3) ++
    nestedMessageNodes 4 d.messages ++ (d.enums.map fun e => .nested 5 (enumNodes e)) ++
    (d.services.map fun s => .nested 6 (serviceNodes s)) ++
    (d.extensions.map fun f => .nested 7 (fieldNodes f)) ++ optionalText 12 d.dialect

def requestNodes (r : Request) : List Node :=
  r.filesToGenerate.map (.text 1) ++ optionalText 2 r.parameter ++
    r.files.map fun f => .nested 15 (fileNodes f)

def encodeRequest (r : Request) : Bytes := encodeNodes (requestNodes r)

end ProtoStubs.Wire
