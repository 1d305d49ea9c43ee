/-! The reasons for which a generation run stops, and the wording of each. -/

namespace ProtoStubs

inductive TypeKind
  | message
  | enum
  deriving DecidableEq

def TypeKind.keyword : TypeKind → String
  | .message => "message"
  | .enum => "enum"

inductive ParameterKey
  | service
  | mode
  deriving DecidableEq

def ParameterKey.name : ParameterKey → String
  | .service => "service"
  | .mode => "mode"

inductive GenerationError
  /-- A key has a value without a meaning, or more than one value. -/
  | parameter (key : ParameterKey) (values : List String)
  | unknownFieldType (number : Int) (field : String)
  | unknownFieldLabel (number : Int) (field : String)
  | unsupportedDialect (name file : String)
  | incompleteMapEntry (fullName : String)
  | notAMapEntry (field typeName : String)
  | notAScalar (keyword : String)
  | missingFile (name : String)
  | unresolvedType (kind : TypeKind) (name viewer : String)
  deriving DecidableEq

def unhandledSuffix : String :=
  " - This is unhandled behaviour and should be reported as an issue"

def GenerationError.description : GenerationError → String
  | .parameter key values =>
    "Unrecognised " ++ key.name ++ " parameter: " ++ String.intercalate "," values
  | .unknownFieldType number field =>
    "Unknown field type " ++ toString number ++ " for field " ++ field
  | .unknownFieldLabel number field =>
    "Unknown field label " ++ toString number ++ " for field " ++ field
  | .unsupportedDialect name file => "Unsupported syntax '" ++ name ++ "' in " ++ file
  | .incompleteMapEntry fullName => "Map entry " ++ fullName ++ " lacks a key or value field"
  | .notAMapEntry field typeName =>
    "Map field " ++ field ++ " refers to " ++ typeName ++ ", not a map entry"
  | .notAScalar keyword => "No TypeScript type for proto type '" ++ keyword ++ "'"
  | .missingFile name => "File to generate '" ++ name ++ "' has no descriptor in the request"
  | .unresolvedType kind name viewer =>
    "No " ++ kind.keyword ++ " export for: " ++ name ++ " (referenced from " ++ viewer ++ ")"

def GenerationError.message (e : GenerationError) : String :=
  match e with
  | .parameter _ _ => e.description
  | _ => e.description ++ unhandledSuffix

def require {α : Type} (e : GenerationError) : Option α → Except GenerationError α
  | some a => .ok a
  | none => .error e

end ProtoStubs
