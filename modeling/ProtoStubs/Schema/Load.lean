import ProtoStubs.Descriptor
import ProtoStubs.Error
import ProtoStubs.Schema

/-! Loading descriptors. A type's full name is its package and the names on the way to it, joined by
dots. Faults are found in a fixed order: a file's dialect, then its messages, each with its fields,
its nested messages and its extensions, then the extensions of the file. -/

namespace ProtoStubs.Schema

def qualify (scope name : String) : String :=
  if scope = "" then name else scope ++ "." ++ name

def bareTypeName (name : String) : String :=
  String.ofList (name.toList.dropWhile (· == '.'))

/-- A field is a map if it is repeated and its type is one of `mapEntries`, the full names of the
pair types declared beside it. -/
def Field.load (mapEntries : List String) (d : Descriptor.Field) :
    Except GenerationError Field := do
  let name := d.name.getD ""
  let typeNumber := d.type.getD 1
  let type ← require (.unknownFieldType typeNumber name) (FieldType.ofNumber? typeNumber)
  let labelNumber := d.label.getD 1
  let label ← require (.unknownFieldLabel labelNumber name) (Label.ofNumber? labelNumber)
  let typeName := bareTypeName (d.typeName.getD "")
  return {
    name
    number := d.number.getD 0
    type
    typeName
    label
    oneofIndex := d.oneofIndex
    jsType := JsType.ofNumber ((d.options.bind (·.jsType)).getD 0)
    proto3Optional := d.proto3Optional.getD false
    isMap := label == .repeated && typeName ∈ mapEntries }

def EnumValue.load (d : Descriptor.EnumValue) : EnumValue where
  name := d.name.getD ""
  number := d.number.getD 0

def Enum.load (scope : String) (d : Descriptor.Enum) : Enum where
  name := d.name.getD ""
  fullName := qualify scope (d.name.getD "")
  values := d.values.map EnumValue.load

def mapEntryNames (scope : String) (nested : List Descriptor.Message) : List String :=
  (nested.filter (·.isMapEntry)).map fun m => qualify scope (m.name.getD "")

mutual

def Message.load (scope : String) : Descriptor.Message → Except GenerationError Message
  | ⟨name, fields, nested, enums, oneofs, extensions, options⟩ => do
    let fullName := qualify scope (name.getD "")
    let loadedFields ← fields.mapM (Field.load (mapEntryNames fullName nested))
    let loadedNested ← loadMessages fullName nested
    let loadedExtensions ← extensions.mapM (Field.load [])
    return {
      name := name.getD ""
      fullName
      fields := loadedFields
      nested := loadedNested
      enums := enums.map (Enum.load fullName)
      oneofs := oneofs.map (·.name.getD "")
      extensions := loadedExtensions
      isMapEntry := (options.bind (·.mapEntry)).getD false }

def loadMessages (scope : String) : List Descriptor.Message → Except GenerationError (List Message)
  | [] => return []
  | d :: rest => do
    let message ← Message.load scope d
    let messages ← loadMessages scope rest
    return message :: messages

end

theorem loadMessages_eq_mapM (scope : String) (ds : List Descriptor.Message) :
    loadMessages scope ds = ds.mapM (Message.load scope) := by
  induction ds with
  | nil => rfl
  | cons d rest ih => simp [loadMessages, ih]

def Method.load (d : Descriptor.Method) : Method where
  name := d.name.getD ""
  inputType := bareTypeName (d.inputType.getD "")
  outputType := bareTypeName (d.outputType.getD "")
  clientStreaming := d.clientStreaming.getD false
  serverStreaming := d.serverStreaming.getD false

def Service.load (package : String) (d : Descriptor.Service) : Service where
  name := d.name.getD ""
  fullName := qualify package (d.name.getD "")
  methods := d.methods.map Method.load

def Dialect.load (file name : String) : Except GenerationError Dialect :=
  if name = "" then .ok .proto2 else require (.unsupportedDialect name file) (Dialect.ofName? name)

def File.load (d : Descriptor.File) : Except GenerationError File := do
  let name := d.name.getD ""
  let package := d.package.getD ""
  let dialect ← Dialect.load name (d.dialect.getD "")
  let messages ← loadMessages package d.messages
  let extensions ← d.extensions.mapM (Field.load [])
  return {
    name
    package
    dialect
    dependencies := d.dependencies
    messages
    enums := d.enums.map (Enum.load package)
    services := d.services.map (Service.load package)
    extensions }

end ProtoStubs.Schema
