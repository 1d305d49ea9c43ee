import ProtoStubs.Text.Affix
import ProtoStubs.Text.Case
import ProtoStubs.Text.WordChar

/-! Names of the generated members. A schema spells a name `my_field`; its accessors share the stem
`myField`, a group of alternatives has the stem `MyField`, and the plain-object form escapes the
names that are reserved words. -/

namespace ProtoStubs.Identifier

/-- Each low line that a word character follows goes, and that character turns to upper case. The
text is read from the left, so of three low lines in a row the first takes the second with it. -/
def camelChars : List Char → List Char
  | '_' :: c :: rest =>
    if Text.isWordChar c then Text.upperChar c ++ camelChars rest
    else '_' :: camelChars (c :: rest)
  | c :: rest => c :: camelChars rest
  | [] => []

def camelCase (s : String) : String :=
  String.ofList (camelChars s.toList)

def oneofStem (name : String) : String :=
  Text.upperFirst (camelCase (Text.lower name))

def accessorStem (name : String) : String :=
  camelCase (Text.dropLead "_" (Text.lower name))

def reservedWords : List String := [
  "abstract", "boolean", "break", "byte", "case", "catch", "char", "class", "const", "continue",
  "debugger", "default", "delete", "do", "double", "else", "enum", "export", "extends", "false",
  "final", "finally", "float", "for", "function", "goto", "if", "implements", "import", "in",
  "instanceof", "int", "interface", "long", "native", "new", "null", "package", "private",
  "protected", "public", "return", "short", "static", "super", "switch", "synchronized", "this",
  "throw", "throws", "transient", "try", "typeof", "var", "void", "volatile", "while", "with"]

def objectKey (stem : String) : String :=
  if stem ∈ reservedWords then "pb_" ++ stem else stem

/-- A full name without the package it starts with and the dot after it. The package is not
compared, only its length counts. -/
def withinPackage (pkg fullName : String) : String :=
  if pkg = "" then fullName else String.ofList (fullName.toList.drop (pkg.toList.length + 1))

end ProtoStubs.Identifier
