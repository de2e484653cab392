-- SUMMARY: Sets of characters given by ranges of code points.

/-!
# Sets of code points
-/

namespace Quarry.Text

/-- Whether the code point of `c` lies in one of the ranges, ends included. -/
def inRanges (ranges : List (Nat × Nat)) (c : Char) : Bool :=
  ranges.any fun r => r.1 ≤ c.toNat && c.toNat ≤ r.2

end Quarry.Text
