/-! # Sets of characters given by ranges
A property of characters is a table of closed ranges of code points. -/

namespace Mustache.Unicode

/-- Whether a character lies in one of the closed ranges of code points. -/
def inRanges (ranges : List (Nat × Nat)) (c : Char) : Bool :=
  ranges.any fun (low, high) => decide (low ≤ c.toNat) && decide (c.toNat ≤ high)

end Mustache.Unicode
