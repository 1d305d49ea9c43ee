import ProtoStubs.Error
import ProtoStubs.Identifier
import ProtoStubs.Schema

/-! The index of all types of a request by full name. It is built from every file before any output
is made. Where a name is declared more than once, the declaration that comes last counts. -/

namespace ProtoStubs

structure MapEntry where
  key : Schema.Field
  value : Schema.Field
  deriving DecidableEq

structure Export where
  kind : TypeKind
  fullName : String
  package : String
  fileName : String
  mapEntry : Option MapEntry := none
  deriving DecidableEq

def Export.localName (e : Export) : String :=
  Identifier.withinPackage e.package e.fullName

namespace Schema

mutual

def Message.withNested : Message → List Message
  | ⟨name, fullName, fields, nested, enums, oneofs, extensions, isMapEntry⟩ =>
    ⟨name, fullName, fields, nested, enums, oneofs, extensions, isMapEntry⟩ :: allNested nested

def allNested : List Message → List Message
  | [] => []
  | m :: rest => m.withNested ++ allNested rest

end

theorem allNested_eq_flatMap (ms : List Message) :
    allNested ms = ms.flatMap Message.withNested := by
  induction ms with
  | nil => rfl
  | cons m rest ih => simp [allNested, ih]

mutual

/-- The enumerations declared in a message: those of its nested messages first, then its own. -/
def Message.allEnums : Message → List Enum
  | ⟨_, _, _, nested, enums, _, _, _⟩ => nestedEnums nested ++ enums

def nestedEnums : List Message → List Enum
  | [] => []
  | m :: rest => m.allEnums ++ nestedEnums rest

end

theorem nestedEnums_eq_flatMap (ms : List Message) :
    nestedEnums ms = ms.flatMap Message.allEnums := by
  induction ms with
  | nil => rfl
  | cons m rest ih => simp [nestedEnums, ih]

def File.allMessages (f : File) : List Message := allNested f.messages

def File.allEnums (f : File) : List Enum := nestedEnums f.messages ++ f.enums

def Message.fieldNamed? (m : Message) (name : String) : Option Field :=
  (m.fields.filter (·.name == name)).getLast?

def Message.mapEntry (m : Message) : Except GenerationError (Option MapEntry) :=
  if m.isMapEntry then
    match m.fieldNamed? "key", m.fieldNamed? "value" with
    | some key, some value => .ok (some ⟨key, value⟩)
    | _, _ => .error (.incompleteMapEntry m.fullName)
  else .ok none

end Schema

def Export.ofMessage (file : Schema.File) (m : Schema.Message) : Except GenerationError Export := do
  return {
    kind := .message
    fullName := m.fullName
    package := file.package
    fileName := file.name
    mapEntry := ← m.mapEntry }

def Export.ofEnum (file : Schema.File) (e : Schema.Enum) : Export where
  kind := .enum
  fullName := e.fullName
  package := file.package
  fileName := file.name

def Export.ofFile (file : Schema.File) : Except GenerationError (List Export) := do
  let messages ← file.allMessages.mapM (Export.ofMessage file)
  return messages ++ file.allEnums.map (Export.ofEnum file)

structure TypeIndex where
  exports : List Export := []

namespace TypeIndex

def ofFiles (files : List Schema.File) : Except GenerationError TypeIndex := do
  return ⟨(← files.mapM Export.ofFile).flatten⟩

def declared (index : TypeIndex) (kind : TypeKind) (name : String) : List Export :=
  index.exports.filter fun e => e.kind == kind && e.fullName == name

/-- The export that a name stands for: the last one declared under it. -/
def find? (index : TypeIndex) (kind : TypeKind) (name : String) : Option Export :=
  (index.declared kind name).getLast?

def resolve (index : TypeIndex) (kind : TypeKind) (name viewer : String) :
    Except GenerationError Export :=
  require (.unresolvedType kind name viewer) (index.find? kind name)

def names (index : TypeIndex) (kind : TypeKind) : List String :=
  ((index.exports.filter (·.kind == kind)).map (·.fullName)).eraseDups

def size (index : TypeIndex) : Nat :=
  (index.names .message).length + (index.names .enum).length

def sorted (index : TypeIndex) (kind : TypeKind) : List Export :=
  ((index.names kind).mergeSort fun a b => decide (a ≤ b)).filterMap (index.find? kind)

end TypeIndex

end ProtoStubs
