import ProtoStubs.Text.Cased
import ProtoStubs.Text.CaseMap

/-! Upper and lower case of whole texts. Upper case is a mapping of single characters; lower case
looks at the neighbours of one letter, the capital sigma, which is written `ς` at the end of a
word and `σ` elsewhere. -/

namespace ProtoStubs.Text

def upper (s : String) : String :=
  String.ofList (s.toList.flatMap upperChar)

def startsCased (cs : List Char) : Bool :=
  (cs.find? fun c => !isCaseIgnorable c).any isCased

def endsWord (before after : List Char) : Bool :=
  startsCased before && !startsCased after

def lowerBetween (before : List Char) (c : Char) (after : List Char) : List Char :=
  if c == 'Σ' && endsWord before after then ['ς'] else lowerChar c

/-- The lower case of the text that follows `before`, whose nearest character comes first. -/
def lowerAfter (before : List Char) : List Char → List Char
  | [] => []
  | c :: rest => lowerBetween before c rest ++ lowerAfter (c :: before) rest

def lower (s : String) : String :=
  String.ofList (lowerAfter [] s.toList)

def upperFirst (s : String) : String :=
  match s.toList with
  | [] => ""
  | c :: rest => String.ofList (upperChar c ++ rest)

def lowerFirst (s : String) : String :=
  match s.toList with
  | [] => ""
  | c :: rest => String.ofList (lowerChar c ++ rest)

end ProtoStubs.Text
