import ProtoStubs.TypeExpr

/-! Questions about types, asked one after another on behalf of one file, with a record of the other
files that the answers mention. -/

namespace ProtoStubs

structure Resolver where
  fileName : String
  index : TypeIndex
  mentioned : List String := []

namespace Resolver

inductive Query
  | messageType (name : String)
  | enumType (name : String)
  | mapEntry (name : String)
  /-- The type of a field, its own type and representation given as keywords. -/
  | fieldType (keyword typeName jsType : String)
  deriving DecidableEq

inductive Answer
  | type (t : TypeExpr)
  | mapEntry (entry : Option MapEntry)
  deriving DecidableEq

def Answer.origin? : Answer → Option String
  | .type t => t.origin?
  | .mapEntry _ => none

def fieldTypeNamed (keyword : String) : Except GenerationError Schema.FieldType :=
  require (.notAScalar keyword) (Schema.FieldType.ofKeyword? keyword)

def scalarNamed (keyword jsType : String) : Except GenerationError ScalarType := do
  (← fieldTypeNamed keyword).scalar (.ofKeyword jsType)

def answer (r : Resolver) : Query → Except GenerationError Answer
  | .messageType name => return .type (← TypeExpr.ofMessage r.index r.fileName name)
  | .enumType name => return .type (← TypeExpr.ofEnum r.index r.fileName name)
  | .mapEntry name => return .mapEntry (← r.index.resolve .message name r.fileName).mapEntry
  | .fieldType keyword typeName jsType => do
    let type ← fieldTypeNamed keyword
    return .type (← TypeExpr.resolve r.index r.fileName type typeName (.ofKeyword jsType))

/-- The resolver after a query: an answer that mentions another file brings in that file, and a
failure changes nothing. -/
def after (r : Resolver) (q : Query) : Resolver :=
  match (r.answer q).toOption.bind Answer.origin? with
  | some file => { r with mentioned := noteFile r.fileName r.mentioned file }
  | none => r

end Resolver

end ProtoStubs
