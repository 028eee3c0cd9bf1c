/-! # Classes of characters by ranges

A class of characters is written down as ranges of code points, first and last one of each, in
ascending order.
-/

set_option autoImplicit false

namespace QueryDesk.Text

/-- Whether a character lies in one of the ranges. -/
def inRanges (ranges : List (Nat × Nat)) (c : Char) : Bool :=
  ranges.any fun r => r.1 ≤ c.toNat && c.toNat ≤ r.2

end QueryDesk.Text
