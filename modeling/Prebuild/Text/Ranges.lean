/-!
# Sets of characters as ranges of code points

A character class of the Unicode standard is a list of closed ranges, ascending and
apart. The tables that hold such lists are kept beside the class they describe.
-/

namespace Prebuild.Text

/-- Closed ranges of code points, ascending and apart. -/
abbrev Ranges := List (Nat × Nat)

/-- Whether a character lies in one of the ranges. -/
def Ranges.contains (rs : Ranges) (c : Char) : Bool :=
  rs.any fun r => r.1 ≤ c.toNat && c.toNat ≤ r.2

end Prebuild.Text
