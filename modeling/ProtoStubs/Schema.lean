/-! The loaded schema: messages, enumerations, services and extensions with their full names, and
with every enumerated value one of its known cases. -/

namespace ProtoStubs.Schema

inductive Dialect
  | proto2
  | proto3
  deriving DecidableEq

def Dialect.name : Dialect → String
  | .proto2 => "proto2"
  | .proto3 => "proto3"

def Dialect.ofName? : String → Option Dialect
  | "proto2" => some .proto2
  | "proto3" => some .proto3
  | _ => none

inductive FieldType
  | double | float | int64 | uint64 | int32 | fixed64 | fixed32 | bool | string | group | message
  | bytes | uint32 | enum | sfixed32 | sfixed64 | sint32 | sint64
  deriving DecidableEq

def FieldType.all : List FieldType := [
  .double, .float, .int64, .uint64, .int32, .fixed64, .fixed32, .bool, .string, .group, .message,
  .bytes, .uint32, .enum, .sfixed32, .sfixed64, .sint32, .sint64]

def FieldType.keyword : FieldType → String
  | .double => "double"
  | .float => "float"
  | .int64 => "int64"
  | .uint64 => "uint64"
  | .int32 => "int32"
  | .fixed64 => "fixed64"
  | .fixed32 => "fixed32"
  | .bool => "bool"
  | .string => "string"
  | .group => "group"
  | .message => "message"
  | .bytes => "bytes"
  | .uint32 => "uint32"
  | .enum => "enum"
  | .sfixed32 => "sfixed32"
  | .sfixed64 => "sfixed64"
  | .sint32 => "sint32"
  | .sint64 => "sint64"

def FieldType.ofNumber? (n : Int) : Option FieldType :=
  if n < 1 then none else FieldType.all[(n - 1).toNat]?

def FieldType.ofKeyword? (word : String) : Option FieldType :=
  FieldType.all.find? (·.keyword == word)

def FieldType.isMessage : FieldType → Bool
  | .message | .group => true
  | _ => false

inductive Label
  | optional
  | required
  | repeated
  deriving DecidableEq

def Label.keyword : Label → String
  | .optional => "optional"
  | .required => "required"
  | .repeated => "repeated"

def Label.ofNumber? : Int → Option Label
  | 1 => some .optional
  | 2 => some .required
  | 3 => some .repeated
  | _ => none

def Label.ofKeyword? : String → Option Label
  | "optional" => some .optional
  | "required" => some .required
  | "repeated" => some .repeated
  | _ => none

inductive JsType
  | normal
  | string
  | number
  deriving DecidableEq

def JsType.keyword : JsType → String
  | .normal => "normal"
  | .string => "string"
  | .number => "number"

def JsType.ofNumber : Int → JsType
  | 1 => .string
  | 2 => .number
  | _ => .normal

def JsType.ofKeyword : String → JsType
  | "string" => .string
  | "number" => .number
  | _ => .normal

inductive Repetition
  | singular
  | repeated
  | map
  deriving DecidableEq

def Repetition.keyword : Repetition → String
  | .singular => "singular"
  | .repeated => "repeated"
  | .map => "map"

structure Field where
  name : String
  number : Int
  type : FieldType
  typeName : String := ""
  label : Label := .optional
  oneofIndex : Option Int := none
  jsType : JsType := .normal
  proto3Optional : Bool := false
  isMap : Bool := false
  deriving DecidableEq

def Field.isMessage (f : Field) : Bool := f.type.isMessage

def Field.isRepeated (f : Field) : Bool := f.label == .repeated

def Field.repetition (f : Field) : Repetition :=
  if f.isMap then .map else if f.isRepeated then .repeated else .singular

/-- A member of a oneof that the schema's author wrote, and not of the one that stands for a
proto3 `optional`. -/
def Field.inRealOneof (f : Field) : Bool := f.oneofIndex.isSome && !f.proto3Optional

def Field.hasPresence (dialect : Dialect) (f : Field) : Bool :=
  !f.isRepeated &&
    (f.oneofIndex.isSome || f.proto3Optional || f.isMessage || dialect == .proto2)

structure EnumValue where
  name : String
  number : Int
  deriving DecidableEq

structure Enum where
  name : String
  fullName : String
  values : List EnumValue := []
  deriving DecidableEq

structure Message where
  name : String
  fullName : String
  fields : List Field := []
  nested : List Message := []
  enums : List Enum := []
  oneofs : List String := []
  extensions : List Field := []
  isMapEntry : Bool := false

def oneofFields (fields : List Field) (index : Nat) : List Field :=
  fields.filter (·.oneofIndex == some (index : Int))

/-- A synthetic oneof has members, and each of them is a proto3 `optional`. -/
def isSyntheticOneof (fields : List Field) (index : Nat) : Bool :=
  !(oneofFields fields index).isEmpty && (oneofFields fields index).all (·.proto3Optional)

inductive CallShape
  | unary
  | serverStreaming
  | clientStreaming
  | bidiStreaming
  deriving DecidableEq

def CallShape.keyword : CallShape → String
  | .unary => "unary"
  | .serverStreaming => "server_streaming"
  | .clientStreaming => "client_streaming"
  | .bidiStreaming => "bidi_streaming"

structure Method where
  name : String
  inputType : String
  outputType : String
  clientStreaming : Bool := false
  serverStreaming : Bool := false
  deriving DecidableEq

def Method.shape (m : Method) : CallShape :=
  match m.clientStreaming, m.serverStreaming with
  | false, false => .unary
  | false, true => .serverStreaming
  | true, false => .clientStreaming
  | true, true => .bidiStreaming

structure Service where
  name : String
  fullName : String
  methods : List Method := []
  deriving DecidableEq

structure File where
  name : String
  package : String := ""
  dialect : Dialect := .proto2
  dependencies : List String := []
  messages : List Message := []
  enums : List Enum := []
  services : List Service := []
  extensions : List Field := []

end ProtoStubs.Schema
