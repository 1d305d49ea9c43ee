import ProtoStubs.TypeExpr

/-! What a declaration file declares, with every type reference resolved. Linking a schema file
finds all that can be wrong with its references; what is linked can always be printed. Pair types of
maps are not declared: they show only in the type of their field. -/

namespace ProtoStubs.Declaration

inductive PropertyType
  | plain (type : TypeExpr)
  | map (key value : TypeExpr)
  deriving DecidableEq

def PropertyType.origins : PropertyType → List String
  | .plain type => type.origin?.toList
  | .map key value => key.origin?.toList ++ value.origin?.toList

structure Property where
  field : Schema.Field
  type : PropertyType
  deriving DecidableEq

structure Extension where
  field : Schema.Field
  type : TypeExpr
  deriving DecidableEq

structure Oneof where
  name : String
  members : List Schema.Field
  deriving DecidableEq

structure Message where
  name : String
  properties : List Property
  nested : List Message
  enums : List Schema.Enum
  oneofs : List Oneof
  extensions : List Extension

structure File where
  name : String
  package : String
  dialect : Schema.Dialect
  dependencies : List String
  messages : List Message
  extensions : List Extension
  enums : List Schema.Enum

def PropertyType.ofMap (index : TypeIndex) (viewer : String) (f : Schema.Field) :
    Except GenerationError PropertyType := do
  let target ← index.resolve .message f.typeName viewer
  let entry ← require (.notAMapEntry f.name f.typeName) target.mapEntry
  let key ← TypeExpr.ofField index viewer entry.key
  let value ← TypeExpr.ofField index viewer entry.value
  return .map key value

def Property.link (index : TypeIndex) (viewer : String) (f : Schema.Field) :
    Except GenerationError Property := do
  if f.isMap then return ⟨f, ← PropertyType.ofMap index viewer f⟩
  else return ⟨f, .plain (← TypeExpr.ofField index viewer f)⟩

def Extension.link (index : TypeIndex) (viewer : String) (f : Schema.Field) :
    Except GenerationError Extension :=
  return ⟨f, ← TypeExpr.ofField index viewer f⟩

/-- The oneofs of a message that are not synthetic, in declared order. A field that may be unset by
itself is no member. -/
def realOneofs (oneofs : List String) (fields : List Schema.Field) : List Oneof :=
  oneofs.zipIdx.filterMap fun (name, index) =>
    if Schema.isSyntheticOneof fields index then none
    else some ⟨name, (Schema.oneofFields fields index).filter fun f => !f.proto3Optional⟩

mutual

def Message.link (index : TypeIndex) (viewer : String) :
    Schema.Message → Except GenerationError Message
  | ⟨name, _, fields, nested, enums, oneofs, extensions, _⟩ => do
    let properties ← fields.mapM (Property.link index viewer)
    let linkedNested ← linkMessages index viewer nested
    let linkedExtensions ← extensions.mapM (Extension.link index viewer)
    return {
      name
      properties
      nested := linkedNested
      enums
      oneofs := realOneofs oneofs fields
      extensions := linkedExtensions }

def linkMessages (index : TypeIndex) (viewer : String) :
    List Schema.Message → Except GenerationError (List Message)
  | [] => return []
  | m :: rest =>
    if m.isMapEntry then linkMessages index viewer rest
    else do
      let message ← Message.link index viewer m
      let messages ← linkMessages index viewer rest
      return message :: messages

end

theorem linkMessages_eq_mapM (index : TypeIndex) (viewer : String) (ms : List Schema.Message) :
    linkMessages index viewer ms =
      (ms.filter fun m => !m.isMapEntry).mapM (Message.link index viewer) := by
  induction ms with
  | nil => rfl
  | cons m rest ih => cases h : m.isMapEntry <;> simp [linkMessages, h, ih]

def File.link (index : TypeIndex) (f : Schema.File) : Except GenerationError File := do
  let messages ← linkMessages index f.name f.messages
  let extensions ← f.extensions.mapM (Extension.link index f.name)
  return {
    name := f.name
    package := f.package
    dialect := f.dialect
    dependencies := f.dependencies
    messages
    extensions
    enums := f.enums }

mutual

def Message.origins : Message → List String
  | ⟨_, properties, nested, _, _, extensions⟩ =>
    properties.flatMap (·.type.origins) ++ originsOfMessages nested ++
      extensions.flatMap (·.type.origin?.toList)

def originsOfMessages : List Message → List String
  | [] => []
  | m :: rest => m.origins ++ originsOfMessages rest

end

theorem originsOfMessages_eq_flatMap (ms : List Message) :
    originsOfMessages ms = ms.flatMap Message.origins := by
  induction ms with
  | nil => rfl
  | cons m rest ih => simp [originsOfMessages, ih]

def File.origins (f : File) : List String :=
  originsOfMessages f.messages ++ f.extensions.flatMap (·.type.origin?.toList)

def File.imports (f : File) : List String :=
  f.dependencies ++ (foreignFiles f.name f.origins).filter fun file => !f.dependencies.contains file

end ProtoStubs.Declaration
