import ProtoStubs.Text.Printable

/-! Quoted texts, as messages show names that could hold anything. -/

namespace ProtoStubs.Text

def singleQuote : Char := Char.ofNat 39

def doubleQuote : Char := Char.ofNat 34

def backslash : Char := Char.ofNat 92

def hexDigits : (count : Nat) → Nat → List Char
  | 0, _ => []
  | count + 1, n => hexDigits count (n / 16) ++ [Nat.digitChar (n % 16)]

def escapeCode (n : Nat) : List Char :=
  if n < 0x100 then 'x' :: hexDigits 2 n
  else if n < 0x10000 then 'u' :: hexDigits 4 n
  else 'U' :: hexDigits 8 n

def quoteChar (mark c : Char) : List Char :=
  if c = mark ∨ c = backslash then [backslash, c]
  else if c = '\t' then [backslash, 't']
  else if c = '\n' then [backslash, 'n']
  else if c = '\r' then [backslash, 'r']
  else if isPrintable c then [c]
  else backslash :: escapeCode c.toNat

/-- Single quotation marks, unless the text has some and no double ones. -/
def quotationMark (cs : List Char) : Char :=
  if cs.contains singleQuote && !cs.contains doubleQuote then doubleQuote else singleQuote

def quote (s : String) : String :=
  let mark := quotationMark s.toList
  String.ofList (mark :: s.toList.flatMap (quoteChar mark) ++ [mark])

end ProtoStubs.Text
