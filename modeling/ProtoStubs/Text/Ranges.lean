/-! Sets of characters given by ranges of code points. -/

namespace ProtoStubs.Text

/-- Closed ranges of code points; a character belongs if some range holds its code point. -/
abbrev Ranges := List (Nat × Nat)

def Ranges.has (rs : Ranges) (c : Char) : Bool :=
  rs.any fun r => r.1 ≤ c.toNat && c.toNat ≤ r.2

end ProtoStubs.Text
