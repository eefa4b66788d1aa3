/-!
# Classes of characters

A class of characters is given by the ranges of its code points. Where a standard lists the members
of a class, so does the module of that class, as one table of ranges.
-/

namespace Parley.Text

/-- Ranges of code points, each with its first and its last one, in ascending order. -/
abbrev Ranges := List (Nat × Nat)

/-- The character lies in one of the ranges. -/
def Ranges.has (rs : Ranges) (c : Char) : Bool :=
  rs.any fun r => r.1 ≤ c.toNat && c.toNat ≤ r.2

end Parley.Text
