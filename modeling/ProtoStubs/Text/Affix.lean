/-! Leading and trailing parts of a text. -/

namespace ProtoStubs.Text

def dropLeadChars (lead cs : List Char) : List Char :=
  if lead.isPrefixOf cs then cs.drop lead.length else cs

def dropTailChars (tail cs : List Char) : List Char :=
  if tail.isSuffixOf cs then cs.take (cs.length - tail.length) else cs

def dropLead (lead s : String) : String :=
  String.ofList (dropLeadChars lead.toList s.toList)

def dropTail (tail s : String) : String :=
  String.ofList (dropTailChars tail.toList s.toList)

def endsWith (tail s : String) : Bool :=
  tail.toList.isSuffixOf s.toList

end ProtoStubs.Text
