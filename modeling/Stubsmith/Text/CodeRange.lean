/-!
# Sets of characters given by ranges of code points

The character classes of Unicode are published as lists of ranges. A class here is such a list for
the characters beyond ASCII; membership is a search through it.
-/

namespace Stubsmith.Text

/-- All code points from `first` to `last`, both included. -/
structure CodeRange where
  first : Nat
  last : Nat

/-- Whether the character lies in the range. -/
def CodeRange.contains (r : CodeRange) (c : Char) : Bool :=
  r.first ≤ c.toNat && c.toNat ≤ r.last

/-- Whether the character lies in one of the ranges. -/
def inRanges (ranges : List CodeRange) (c : Char) : Bool :=
  ranges.any (·.contains c)

end Stubsmith.Text
