set_option autoImplicit false

/-!
Uniform indices below a bound from 64-bit draws. Draws below `2^64 mod bound` are rejected, so the
accepted ones number a multiple of the bound and their remainders are equally frequent.
-/

namespace TableDraw.Uniform

/-- The number of rejected draws, `2^64 mod bound`, in 64-bit arithmetic. -/
def threshold (bound : UInt64) : UInt64 := (0 - bound) % bound

/-- Whether a draw counts. -/
def accepts (bound x : UInt64) : Bool := threshold bound ≤ x

/-- The position of the first accepted draw among `count` draws from `position` on, or the position
after them if there is none. -/
def firstAccepted (draw : Nat → UInt64) (bound : UInt64) : (count position : Nat) → Nat
  | 0, position => position
  | count + 1, position =>
      if accepts bound (draw position) then position
      else firstAccepted draw bound count (position + 1)

/-- The remainder of a draw. -/
def reduce (bound x : UInt64) : Nat := (x % bound).toNat

end TableDraw.Uniform
