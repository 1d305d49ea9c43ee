import ProtoStubs.Text.Affix

/-! Paths of schema files, and the paths and names of the modules generated from them. A schema
`foo/bar.proto` has the module `foo/bar_pb`; other modules import it relative to the root of the
output, under the name `foo_bar_pb`. -/

namespace ProtoStubs.SourcePath

def schemaSuffix : String := ".proto"

def moduleSuffix : String := "_pb"

def stem (path : String) : String :=
  Text.dropTail schemaSuffix path

def flattenChar (c : Char) : Char :=
  if c = '/' ∨ c = '.' ∨ c = '-' then '_' else c

/-- The name under which other modules import the module of a schema: the stem `a/b-c` gives
`a_b_c_pb`. -/
def namespaceName (path : String) : String :=
  String.ofList ((stem path).toList.map flattenChar) ++ moduleSuffix

/-- The path of the module of a schema; a path without the schema suffix is its own module. -/
def modulePath (path : String) : String :=
  if Text.endsWith schemaSuffix path then stem path ++ moduleSuffix else path

def toRoot (path : String) : String :=
  match path.toList.count '/' with
  | 0 => "./"
  | depth => String.ofList (List.replicate depth ['.', '.', '/']).flatten

def relativeImport (viewer target : String) : String :=
  toRoot viewer ++ modulePath target

def bundledSchemas : List String := [
  "google/protobuf/any.proto", "google/protobuf/api.proto", "google/protobuf/descriptor.proto",
  "google/protobuf/duration.proto", "google/protobuf/empty.proto",
  "google/protobuf/field_mask.proto", "google/protobuf/source_context.proto",
  "google/protobuf/struct.proto", "google/protobuf/timestamp.proto", "google/protobuf/type.proto",
  "google/protobuf/wrappers.proto", "google/protobuf/compiler/plugin.proto"]

def importPath (viewer target : String) : String :=
  if target ∈ bundledSchemas then "google-protobuf/" ++ modulePath target
  else relativeImport viewer target

end ProtoStubs.SourcePath
