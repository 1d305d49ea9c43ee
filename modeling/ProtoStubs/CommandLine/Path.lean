import ProtoStubs.Text.Split

/-! Paths of files to read. -/

namespace ProtoStubs.CommandLine

structure Path where
  root : String
  names : List String
  deriving DecidableEq

namespace Path

/-- Exactly two slashes at the front are a root of their own. -/
def rootOf (cs : List Char) : String :=
  match (cs.takeWhile (· == '/')).length with
  | 0 => ""
  | 2 => "//"
  | _ => "/"

def ofString (s : String) : Path where
  root := rootOf s.toList
  names := ((Text.splitChars '/' s.toList).filter fun name => name != [] && name != ['.']).map
    String.ofList

def toString (p : Path) : String :=
  if p.root = "" ∧ p.names = [] then "." else p.root ++ String.intercalate "/" p.names

end Path

end ProtoStubs.CommandLine
