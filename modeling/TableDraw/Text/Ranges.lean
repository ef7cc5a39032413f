set_option autoImplicit false

/-!
Sets of characters given as ascending ranges of code points, both ends included.
-/

namespace TableDraw.Text

/-- Whether a code point lies in one of the ranges. -/
def inRanges (ranges : Array (Nat × Nat)) (n : Nat) : Bool :=
  ranges.any (fun r => decide (r.1 ≤ n) && decide (n ≤ r.2))

end TableDraw.Text
