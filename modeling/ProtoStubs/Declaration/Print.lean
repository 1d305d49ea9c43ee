import ProtoStubs.Declaration
import ProtoStubs.Layout

/-! The text of a declaration file. A message is a class with the accessors of its fields and a
namespace of the same name, which holds its plain-object form and all that is nested in it. -/

namespace ProtoStubs.Declaration

open Layout

/-- A stretch of a printed line: text of its own, or a type, which can be in the plain-object form. -/
inductive Piece
  | text (content : String)
  | type (shown : TypeExpr)
  | object (shown : TypeExpr)
  deriving DecidableEq

def Piece.render (viewer : String) : Piece → String
  | .text content => content
  | .type shown => shown.text viewer
  | .object shown => shown.objectText viewer

abbrev Phrase := List Piece

def Phrase.render (viewer : String) (phrase : Phrase) : String :=
  String.join (phrase.map (Piece.render viewer))

def Property.stem (p : Property) : String := Identifier.accessorStem p.field.name

def Property.upperStem (p : Property) : String := Text.upperFirst p.stem

def mapAccessors (upperStem : String) (key value : TypeExpr) : List Phrase := [
  [.text ("get" ++ upperStem ++ "Map(): jspb.Map<"), .type key, .text ", ", .type value,
    .text ">;"],
  [.text ("clear" ++ upperStem ++ "Map(): void;")]]

def repeatedAccessors (upperStem : String) (type : TypeExpr) : List Phrase :=
  let optional := if type.isMessage then "?" else ""
  let otherGetters : List Phrase :=
    if type.isBytes then [
      [.text ("get" ++ upperStem ++ "List_asU8(): Array<Uint8Array>;")],
      [.text ("get" ++ upperStem ++ "List_asB64(): Array<string>;")]]
    else []
  [[.text ("clear" ++ upperStem ++ "List(): void;")],
    [.text ("get" ++ upperStem ++ "List(): Array<"), .type type, .text ">;"]] ++ otherGetters ++ [
    [.text ("set" ++ upperStem ++ "List(value: Array<"), .type type, .text ">): void;"],
    [.text ("add" ++ upperStem ++ "(value" ++ optional ++ ": "), .type type,
      .text ", index?: number): ", .type type, .text ";"]]

def singularAccessors (upperStem : String) (type : TypeExpr) : List Phrase :=
  if type.isMessage then [
    [.text ("get" ++ upperStem ++ "(): "), .type type, .text " | undefined;"],
    [.text ("set" ++ upperStem ++ "(value?: "), .type type, .text "): void;"]]
  else
    let otherGetters : List Phrase :=
      if type.isBytes then [
        [.text ("get" ++ upperStem ++ "_asU8(): Uint8Array;")],
        [.text ("get" ++ upperStem ++ "_asB64(): string;")]]
      else []
    [[.text ("get" ++ upperStem ++ "(): "), .type type, .text ";"]] ++ otherGetters ++
      [[.text ("set" ++ upperStem ++ "(value: "), .type type, .text "): void;"]]

def presenceAccessors (upperStem : String) : List Phrase := [
  [.text ("has" ++ upperStem ++ "(): boolean;")],
  [.text ("clear" ++ upperStem ++ "(): void;")]]

def Property.accessors (dialect : Schema.Dialect) (p : Property) : List Phrase :=
  match p.type with
  | .map key value => mapAccessors p.upperStem key value
  | .plain type =>
    if p.field.isRepeated then repeatedAccessors p.upperStem type
    else
      (if p.field.hasPresence dialect then presenceAccessors p.upperStem else []) ++
        singularAccessors p.upperStem type

def Property.objectKey (dialect : Schema.Dialect) (p : Property) : String :=
  match p.type with
  | .map _ _ => p.stem ++ "Map"
  | .plain type =>
    if p.field.isRepeated then p.stem ++ "List"
    else if type.isMessage || dialect == .proto2 || p.field.proto3Optional then
      Identifier.objectKey p.stem ++ "?"
    else Identifier.objectKey p.stem

def Property.objectType (p : Property) : Phrase :=
  match p.type with
  | .map key value => [.text "Array<[", .object key, .text ", ", .object value, .text "]>"]
  | .plain type =>
    if p.field.isRepeated then [.text "Array<", .object type, .text ">"] else [.object type]

def Property.objectEntry (dialect : Schema.Dialect) (p : Property) : Phrase :=
  .text (p.objectKey dialect ++ ": ") :: p.objectType ++ [.text ","]

def Property.lines (dialect : Schema.Dialect) (viewer : String) (p : Property) : List Line :=
  (p.accessors dialect).map (fun a => line (a.render viewer)) ++ [.blank]

def enumLines (e : Schema.Enum) : List Line :=
  [.blank] ++
  braced ("export interface " ++ e.name ++ "Map ")
    (e.values.map fun v => line (Text.upper v.name ++ ": " ++ toString v.number ++ ";")) "" ++
  [.blank, line ("export const " ++ e.name ++ ": " ++ e.name ++ "Map;")]

def Oneof.lines (o : Oneof) : List Line :=
  [.blank] ++
  braced ("export enum " ++ Identifier.oneofStem o.name ++ "Case ")
    (line (Text.upper o.name ++ "_NOT_SET = 0,") ::
      o.members.map fun f => line (Text.upper f.name ++ " = " ++ toString f.number ++ ",")) ""

def Extension.constant (e : Extension) : Phrase :=
  let type : Phrase :=
    if e.field.isRepeated then [.text "Array<", .type e.type, .text ">"] else [.type e.type]
  .text ("export const " ++ Identifier.camelCase e.field.name ++ ": jspb.ExtensionFieldInfo<") ::
    type ++ [.text ">;"]

def Extension.lines (viewer : String) (e : Extension) : List Line :=
  [.blank, line (e.constant.render viewer)]

def Oneof.caseAccessor (className : String) (o : Oneof) : String :=
  "get" ++ Identifier.oneofStem o.name ++ "Case(): " ++ className ++ "." ++
    Identifier.oneofStem o.name ++ "Case;"

def numberKeyed (type : String) : String :=
  openBrace ++ "[key: number]: " ++ type ++ closeBrace

def commonMembers (name : String) : List String := [
  "serializeBinary(): Uint8Array;",
  "toObject(includeInstance?: boolean): " ++ name ++ ".AsObject;",
  "static toObject(includeInstance: boolean, msg: " ++ name ++ "): " ++ name ++ ".AsObject;",
  "static extensions: " ++ numberKeyed "jspb.ExtensionFieldInfo<jspb.Message>" ++ ";",
  "static extensionsBinary: " ++ numberKeyed "jspb.ExtensionFieldBinaryInfo<jspb.Message>" ++ ";",
  "static serializeBinaryToWriter(message: " ++ name ++ ", writer: jspb.BinaryWriter): void;",
  "static deserializeBinary(bytes: Uint8Array): " ++ name ++ ";",
  "static deserializeBinaryFromReader(message: " ++ name ++ ", reader: jspb.BinaryReader): " ++
    name ++ ";"]

def classLines (dialect : Schema.Dialect) (viewer name : String) (properties : List Property)
    (oneofs : List Oneof) : List Line :=
  braced ("export class " ++ name ++ " extends jspb.Message ")
    (properties.flatMap (Property.lines dialect viewer) ++
      (oneofs.map fun o => line (o.caseAccessor name)) ++ (commonMembers name).map line) ""

def objectLines (dialect : Schema.Dialect) (viewer : String) (properties : List Property) :
    List Line :=
  braced "export type AsObject = "
    (properties.map fun p => line ((p.objectEntry dialect).render viewer)) ""

mutual

def Message.lines (dialect : Schema.Dialect) (viewer : String) : Message → List Line
  | ⟨name, properties, nested, enums, oneofs, extensions⟩ =>
    [.blank] ++ classLines dialect viewer name properties oneofs ++ [.blank] ++
    braced ("export namespace " ++ name ++ " ")
      (objectLines dialect viewer properties ++ linesOfMessages dialect viewer nested ++
        enums.flatMap enumLines ++ oneofs.flatMap Oneof.lines ++
        extensions.flatMap (Extension.lines viewer)) ""

def linesOfMessages (dialect : Schema.Dialect) (viewer : String) : List Message → List Line
  | [] => []
  | m :: rest => m.lines dialect viewer ++ linesOfMessages dialect viewer rest

end

theorem linesOfMessages_eq_flatMap (dialect : Schema.Dialect) (viewer : String)
    (ms : List Message) :
    linesOfMessages dialect viewer ms = ms.flatMap (Message.lines dialect viewer) := by
  induction ms with
  | nil => rfl
  | cons m rest ih => simp [linesOfMessages, ih]

def importLine (viewer target : String) : String :=
  "import * as " ++ SourcePath.namespaceName target ++ " from \"" ++
    SourcePath.importPath viewer target ++ "\";"

def File.headLines (f : File) : List Line :=
  [line ("// package: " ++ f.package), line ("// file: " ++ f.name), .blank,
    line "import * as jspb from \"google-protobuf\";"] ++
  f.imports.map fun target => line (importLine f.name target)

def File.bodyLines (f : File) : List Line :=
  linesOfMessages f.dialect f.name f.messages ++ f.extensions.flatMap (Extension.lines f.name) ++
    f.enums.flatMap enumLines ++ [.blank]

def File.lines (f : File) : List Line :=
  f.headLines ++ f.bodyLines

def text (index : TypeIndex) (f : Schema.File) : Except GenerationError String :=
  return Layout.render (← File.link index f).lines

end ProtoStubs.Declaration
