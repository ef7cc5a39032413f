import Mathlib.Algebra.Group.Nat.Defs
import Mathlib.Order.Basic
import TableDraw.Random.Uniform

set_option autoImplicit false

/-!
Rejection in plain numbers: below which number a draw is rejected, what becomes of an accepted one,
and which draw of a stream is the first to be accepted.
-/

namespace TableDraw.Uniform

/-- The negation of a bound is `2^64` less the bound, which leaves the same remainder as `2^64`. -/
theorem toNat_threshold {bound : UInt64} (positive : 0 < bound.toNat) :
    (threshold bound).toNat = 2 ^ 64 % bound.toNat := by
  have within := bound.toNat_lt
  have negated : (0 - bound).toNat = 2 ^ 64 - bound.toNat := by
    rw [UInt64.toNat_sub, UInt64.toNat_zero, Nat.add_zero, Nat.mod_eq_of_lt (by omega)]
  rw [threshold, UInt64.toNat_mod, negated, ← Nat.mod_eq_sub_mod (Nat.le_of_lt within)]

theorem accepts_iff {bound : UInt64} (positive : 0 < bound.toNat) (x : UInt64) :
    accepts bound x = true ↔ 2 ^ 64 % bound.toNat ≤ x.toNat := by
  rw [accepts, decide_eq_true_eq, UInt64.le_iff_toNat_le, toNat_threshold positive]

theorem reduce_eq (bound x : UInt64) : reduce bound x = x.toNat % bound.toNat := by
  rw [reduce, UInt64.toNat_mod]

/-- An index stays below its bound, also where the bound is too great for a 64-bit word. -/
theorem reduce_lt {bound : Nat} (positive : 0 < bound) (x : UInt64) :
    reduce (UInt64.ofNat bound) x < bound := by
  rw [reduce_eq, UInt64.toNat_ofNat']
  have draw := x.toNat_lt
  rcases Nat.eq_zero_or_pos (bound % 2 ^ 64) with whole | part
  · have beyond : 2 ^ 64 ≤ bound := Nat.le_of_dvd positive (Nat.dvd_of_mod_eq_zero whole)
    rw [whole, Nat.mod_zero]
    omega
  · have below := Nat.mod_lt x.toNat part
    have smaller := Nat.mod_le bound (2 ^ 64)
    omega

/-- A search that is long enough ends at the first accepted draw. -/
theorem firstAccepted_eq {draw : Nat → UInt64} {bound : UInt64} {position hit : Nat} (count : Nat)
    (later : position ≤ hit) (near : hit < position + count)
    (rejected : ∀ k, position ≤ k → k < hit → accepts bound (draw k) = false)
    (accepted : accepts bound (draw hit) = true) :
    firstAccepted draw bound count position = hit := by
  induction count generalizing position with
  | zero => omega
  | succ count ih =>
      rw [firstAccepted]
      rcases Nat.eq_or_lt_of_le later with rfl | before
      · rw [if_pos accepted]
      · rw [rejected position (Nat.le_refl _) before, if_neg Bool.false_ne_true]
        exact ih before (by omega) (fun k after => rejected k (Nat.le_of_succ_le after))

/-- The first accepted draw of a stream that starts over lies within one period. -/
theorem firstAccepted_of_periodic {draw : Nat → UInt64} {period : Nat}
    (periodic : ∀ k, draw (k + period) = draw k) (positive : 0 < period) {bound : UInt64}
    {position hit : Nat} (later : position ≤ hit)
    (rejected : ∀ k, position ≤ k → k < hit → accepts bound (draw k) = false)
    (accepted : accepts bound (draw hit) = true) :
    firstAccepted draw bound period position = hit := by
  refine firstAccepted_eq period later ?_ rejected accepted
  by_contra far
  -- One period earlier the stream held the same draw.
  have before := rejected (hit - period) (by omega) (by omega)
  rw [← periodic (hit - period), Nat.sub_add_cancel (by omega), accepted] at before
  cases before

end TableDraw.Uniform
