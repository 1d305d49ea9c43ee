/-! Which fields the messages of a request and of a response have. A field that is not listed is
skipped like an unknown one; every field that holds a text or a message is listed, read or not, since
its content has to be well formed. -/

namespace ProtoStubs.Wire

inductive Kind
  | request | version | response | outputFile | generatedCode | codeSpan
  | file | message | extensionRange | declaration | reservedRange | field | oneof | enum
  | enumValue | service | method | sourceCode | location
  | fileOptions | messageOptions | rangeOptions | fieldOptions | oneofOptions | enumOptions
  | enumValueOptions | serviceOptions | methodOptions
  | features | editionDefault | featureSupport | uninterpreted | namePart
  deriving DecidableEq

inductive Shape
  | text
  | number
  /-- A list of numbers, each alone or several in one chunk. -/
  | numbers
  /-- An enumerated value; numbers outside the range are none. -/
  | choice (least greatest : Int)
  | nested (kind : Kind)
  deriving DecidableEq

def Kind.fields : Kind → List (Nat × Shape)
  | .request => [
    (1, .text), (2, .text), (3, .nested .version), (15, .nested .file), (17, .nested .file)]
  | .version => [(4, .text)]
  | .response => [(1, .text), (2, .number), (15, .nested .outputFile)]
  | .outputFile => [(1, .text), (2, .text), (15, .text), (16, .nested .generatedCode)]
  | .generatedCode => [(1, .nested .codeSpan)]
  | .codeSpan => [(1, .numbers), (2, .text)]
  | .file => [
    (1, .text), (2, .text), (3, .text), (4, .nested .message), (5, .nested .enum),
    (6, .nested .service), (7, .nested .field), (8, .nested .fileOptions),
    (9, .nested .sourceCode), (10, .numbers), (11, .numbers), (12, .text)]
  | .message => [
    (1, .text), (2, .nested .field), (3, .nested .message), (4, .nested .enum),
    (5, .nested .extensionRange), (6, .nested .field), (7, .nested .messageOptions),
    (8, .nested .oneof), (9, .nested .reservedRange), (10, .text)]
  | .extensionRange => [(3, .nested .rangeOptions)]
  | .declaration => [(2, .text), (3, .text)]
  | .field => [
    (1, .text), (2, .text), (3, .number), (4, .choice 1 3), (5, .choice 1 18), (6, .text),
    (7, .text), (8, .nested .fieldOptions), (9, .number), (10, .text), (17, .number)]
  | .oneof => [(1, .text), (2, .nested .oneofOptions)]
  | .enum => [
    (1, .text), (2, .nested .enumValue), (3, .nested .enumOptions), (4, .nested .reservedRange),
    (5, .text)]
  | .enumValue => [(1, .text), (2, .number), (3, .nested .enumValueOptions)]
  | .service => [(1, .text), (2, .nested .method), (3, .nested .serviceOptions)]
  | .method => [
    (1, .text), (2, .text), (3, .text), (4, .nested .methodOptions), (5, .number), (6, .number)]
  | .sourceCode => [(1, .nested .location)]
  | .location => [(1, .numbers), (2, .numbers), (3, .text), (4, .text), (6, .text)]
  | .fileOptions => [
    (1, .text), (8, .text), (11, .text), (36, .text), (37, .text), (39, .text), (40, .text),
    (41, .text), (44, .text), (45, .text), (50, .nested .features), (999, .nested .uninterpreted)]
  | .messageOptions => [(7, .number), (12, .nested .features), (999, .nested .uninterpreted)]
  | .rangeOptions => [
    (2, .nested .declaration), (50, .nested .features), (999, .nested .uninterpreted)]
  | .fieldOptions => [
    (6, .choice 0 2), (19, .numbers), (20, .nested .editionDefault), (21, .nested .features),
    (22, .nested .featureSupport), (999, .nested .uninterpreted)]
  | .oneofOptions => [(1, .nested .features), (999, .nested .uninterpreted)]
  | .enumOptions => [(7, .nested .features), (999, .nested .uninterpreted)]
  | .enumValueOptions => [
    (2, .nested .features), (4, .nested .featureSupport), (999, .nested .uninterpreted)]
  | .editionDefault => [(2, .text)]
  | .featureSupport => [(3, .text)]
  | .serviceOptions => [(34, .nested .features), (999, .nested .uninterpreted)]
  | .methodOptions => [(35, .nested .features), (999, .nested .uninterpreted)]
  | .uninterpreted => [(2, .nested .namePart), (3, .text), (8, .text)]
  | .namePart => [(1, .text)]
  | _ => []

def Kind.shape? (kind : Kind) (field : Nat) : Option Shape :=
  kind.fields.lookup field

end ProtoStubs.Wire
