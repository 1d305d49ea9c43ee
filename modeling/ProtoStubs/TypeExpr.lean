import ProtoStubs.SourcePath
import ProtoStubs.TypeIndex

/-! The types of accessors. A scalar has a type of the target language; a message or an enumeration
is a reference to its declaration, by its bare name in the file that declares it and through the
imported module of that file in all others. -/

namespace ProtoStubs

inductive ScalarType
  | number
  | boolean
  | string
  | bytes
  deriving DecidableEq

def ScalarType.text : ScalarType → String
  | .number => "number"
  | .boolean => "boolean"
  | .string => "string"
  | .bytes => "Uint8Array | string"

namespace Schema

def FieldType.is64Bit : FieldType → Bool
  | .int64 | .uint64 | .fixed64 | .sfixed64 | .sint64 => true
  | _ => false

def FieldType.scalar? (type : FieldType) (jsType : JsType) : Option ScalarType :=
  if jsType == .string && type.is64Bit then some .string
  else match type with
    | .bool => some .boolean
    | .string => some .string
    | .bytes => some .bytes
    | .group | .message | .enum => none
    | _ => some .number

def FieldType.scalar (type : FieldType) (jsType : JsType) : Except GenerationError ScalarType :=
  require (.notAScalar type.keyword) (type.scalar? jsType)

end Schema

inductive TypeExpr
  | scalar (type : ScalarType)
  | message (target : Export)
  | enum (target : Export)
  deriving DecidableEq

def Export.namespacedName (e : Export) : String :=
  SourcePath.namespaceName e.fileName ++ "." ++ e.localName

def Export.reference (viewer : String) (e : Export) : String :=
  if e.fileName = viewer then e.localName else e.namespacedName

/-- The type of the values of an enumeration, of which the declaration is an object. -/
def enumValueType (name : String) : String :=
  name ++ "Map[keyof " ++ name ++ "Map]"

namespace TypeExpr

def text (viewer : String) : TypeExpr → String
  | .scalar type => type.text
  | .message target => target.reference viewer
  | .enum target => enumValueType (target.reference viewer)

def objectText (viewer : String) (t : TypeExpr) : String :=
  match t with
  | .message _ => t.text viewer ++ ".AsObject"
  | _ => t.text viewer

def isMessage : TypeExpr → Bool
  | .message _ => true
  | _ => false

def isBytes : TypeExpr → Bool
  | .scalar .bytes => true
  | _ => false

def origin? : TypeExpr → Option String
  | .scalar _ => none
  | .message target | .enum target => some target.fileName

def ofMessage (index : TypeIndex) (viewer name : String) : Except GenerationError TypeExpr :=
  return .message (← index.resolve .message name viewer)

def ofEnum (index : TypeIndex) (viewer name : String) : Except GenerationError TypeExpr :=
  return .enum (← index.resolve .enum name viewer)

def resolve (index : TypeIndex) (viewer : String) (type : Schema.FieldType) (typeName : String)
    (jsType : Schema.JsType) : Except GenerationError TypeExpr :=
  match type with
  | .message | .group => ofMessage index viewer typeName
  | .enum => ofEnum index viewer typeName
  | _ => return .scalar (← type.scalar jsType)

def ofField (index : TypeIndex) (viewer : String) (f : Schema.Field) :
    Except GenerationError TypeExpr :=
  resolve index viewer f.type f.typeName f.jsType

end TypeExpr

def noteFile (viewer : String) (seen : List String) (file : String) : List String :=
  if file = viewer ∨ file ∈ seen then seen else seen ++ [file]

def foreignFiles (viewer : String) (files : List String) : List String :=
  files.foldl (noteFile viewer) []

end ProtoStubs
