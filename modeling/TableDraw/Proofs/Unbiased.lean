import Mathlib.Data.Int.CardIntervalMod
import Mathlib.Data.Nat.Find
import Mathlib.Data.Nat.Periodic
import Mathlib.Data.Set.Card
import TableDraw.Proofs.Uniform

set_option autoImplicit false

/-!
Rejection leaves no index with an advantage. The draws that are accepted are the last `q * bound`
numbers of a word, `q` whole rounds through the remainders, so each remainder comes from `q` of them;
they are more than half of all; and a search ends at the first of them that it meets.
-/

namespace TableDraw.Uniform

section Counting

/-- Words are counted as the numbers that they hold. -/
theorem ncard_words (p : Nat → Prop) [DecidablePred p] :
    {x : UInt64 | p x.toNat}.ncard = ((Finset.range (2 ^ 64)).filter p).card := by
  have injective : Function.Injective UInt64.toNat := fun x y => UInt64.toNat_inj.mp
  have numbers : UInt64.toNat '' {x : UInt64 | p x.toNat} = ((Finset.range (2 ^ 64)).filter p) := by
    ext n
    simp only [Set.mem_image, Set.mem_ofPred_eq, Finset.coe_filter, Finset.mem_range]
    constructor
    · rintro ⟨x, holds, rfl⟩
      exact ⟨x.toNat_lt, holds⟩
    · rintro ⟨small, holds⟩
      have word : (UInt64.ofNat n).toNat = n := UInt64.toNat_ofNat_of_lt' small
      exact ⟨UInt64.ofNat n, word.symm ▸ holds, word⟩
  rw [← Set.ncard_image_of_injective _ injective, numbers, Set.ncard_coe_finset]

/-- Whole rounds through the remainders meet each of them once a round, wherever they begin. -/
theorem card_remainder (start rounds : Nat) {bound r : Nat} (below : r < bound) :
    ((Finset.Ico start (start + rounds * bound)).filter (fun n => n % bound = r)).card = rounds := by
  have periodic : Function.Periodic (fun n => n % bound = r) (rounds * bound) := by
    intro n
    dsimp only
    rw [Nat.add_mul_mod_self_right]
  have positive : 0 < bound := Nat.zero_lt_of_lt below
  have count := Nat.count_modEq_card (rounds * bound) positive r
  rw [Nat.mul_mod_left, if_neg (Nat.not_lt_zero _), Nat.mul_div_cancel _ positive] at count
  simp only [Nat.ModEq, Nat.mod_eq_of_lt below] at count
  rw [Nat.filter_Ico_card_eq_of_periodic start (rounds * bound) _ periodic, count, Nat.add_zero]

end Counting

section Acceptance

variable {bound : UInt64}

theorem threshold_lt (positive : 0 < bound.toNat) : threshold bound < bound := by
  rw [UInt64.lt_iff_toNat_lt, toNat_threshold positive]
  exact Nat.mod_lt _ positive

/-- Each remainder comes from equally many of the draws that are accepted. -/
theorem ncard_accepted_remainder (positive : 0 < bound.toNat) {r : Nat} (below : r < bound.toNat) :
    {x : UInt64 | accepts bound x = true ∧ reduce bound x = r}.ncard = 2 ^ 64 / bound.toNat := by
  have rounds : 2 ^ 64 % bound.toNat + 2 ^ 64 / bound.toNat * bound.toNat = 2 ^ 64 := by
    rw [Nat.mul_comm]
    exact Nat.mod_add_div _ _
  have interval : (Finset.range (2 ^ 64)).filter
      (fun n => 2 ^ 64 % bound.toNat ≤ n ∧ n % bound.toNat = r) =
      (Finset.Ico (2 ^ 64 % bound.toNat)
        (2 ^ 64 % bound.toNat + 2 ^ 64 / bound.toNat * bound.toNat)).filter
          (fun n => n % bound.toNat = r) := by
    ext n
    rw [rounds, Finset.mem_filter, Finset.mem_filter, Finset.mem_range, Finset.mem_Ico]
    tauto
  simp only [accepts_iff positive, reduce_eq]
  rw [ncard_words (fun n => 2 ^ 64 % bound.toNat ≤ n ∧ n % bound.toNat = r), interval,
    card_remainder _ _ below]

/-- Fewer than half of all draws are rejected: less than the bound, and than what is left above it. -/
theorem ncard_accepted (positive : 0 < bound.toNat) :
    2 ^ 64 < 2 * {x : UInt64 | accepts bound x = true}.ncard := by
  have interval : (Finset.range (2 ^ 64)).filter (fun n => 2 ^ 64 % bound.toNat ≤ n) =
      Finset.Ico (2 ^ 64 % bound.toNat) (2 ^ 64) := by
    ext n
    rw [Finset.mem_filter, Finset.mem_range, Finset.mem_Ico, and_comm]
  have below := Nat.mod_lt (2 ^ 64) positive
  have twice : 2 ^ 64 % bound.toNat + bound.toNat ≤ 2 ^ 64 := by
    have one : 1 * bound.toNat ≤ 2 ^ 64 / bound.toNat * bound.toNat :=
      Nat.mul_le_mul_right _ (Nat.div_pos (Nat.le_of_lt bound.toNat_lt) positive)
    have whole := Nat.mod_add_div (2 ^ 64) bound.toNat
    rw [Nat.mul_comm] at whole
    omega
  simp only [accepts_iff positive]
  rw [ncard_words (fun n => 2 ^ 64 % bound.toNat ≤ n), interval, Nat.card_Ico]
  omega

end Acceptance

section Search

variable {draw : Nat → UInt64} {bound : UInt64} {position : Nat}

/-- The draw that a search from a position on ends at: the first one that is accepted. -/
structure StopsAt (draw : Nat → UInt64) (bound : UInt64) (position hit : Nat) : Prop where
  later : position ≤ hit
  rejected : ∀ k, position ≤ k → k < hit → accepts bound (draw k) = false
  accepted : accepts bound (draw hit) = true

theorem exists_stopsAt (ahead : ∃ k, position ≤ k ∧ accepts bound (draw k) = true) :
    ∃ hit, StopsAt draw bound position hit := by
  obtain ⟨later, accepted⟩ := Nat.find_spec ahead
  refine ⟨Nat.find ahead, later, ?_, accepted⟩
  intro k after before
  rw [← Bool.not_eq_true]
  exact fun earlier => Nat.find_min ahead before ⟨after, earlier⟩

end Search

/-- Rejection makes no index more frequent than another, and it does not go on for ever. The number
of rejected draws is `2^64 mod bound`, which is below the bound. Each index below the bound is the
remainder of equally many accepted draws, and those are more than half of all draws. A stream that
holds an accepted draw stops a search at the first one, be the search merely long enough or as long
as the period of a stream that starts over; what the search gives is that draw's remainder, an index
below the bound. -/
theorem remainders_equally_frequent {bound : UInt64} (positive : 0 < bound.toNat) :
    (threshold bound).toNat = 2 ^ 64 % bound.toNat ∧ threshold bound < bound ∧
    (∀ r < bound.toNat,
      {x : UInt64 | accepts bound x = true ∧ reduce bound x = r}.ncard = 2 ^ 64 / bound.toNat) ∧
    2 ^ 64 < 2 * {x : UInt64 | accepts bound x = true}.ncard ∧
    ∀ (draw : Nat → UInt64) (position : Nat),
      ((∃ k, position ≤ k ∧ accepts bound (draw k) = true) →
        ∃ hit, StopsAt draw bound position hit) ∧
      ∀ hit, StopsAt draw bound position hit →
        (∀ count, hit < position + count → firstAccepted draw bound count position = hit) ∧
        (∀ period, 0 < period → (∀ k, draw (k + period) = draw k) →
          firstAccepted draw bound period position = hit) ∧
        reduce bound (draw hit) = (draw hit).toNat % bound.toNat ∧
        reduce bound (draw hit) < bound.toNat := by
  refine ⟨toNat_threshold positive, threshold_lt positive,
    fun r below => ncard_accepted_remainder positive below, ncard_accepted positive, ?_⟩
  intro draw position
  refine ⟨exists_stopsAt, ?_⟩
  rintro hit ⟨later, rejected, accepted⟩
  refine ⟨fun count near => firstAccepted_eq count later near rejected accepted,
    fun period some periodic => firstAccepted_of_periodic periodic some later rejected accepted,
    reduce_eq bound (draw hit), ?_⟩
  rw [reduce_eq]
  exact Nat.mod_lt _ positive

/-- Below `3 * 2^62` a quarter of all draws is rejected and each index comes from a single draw. The
greatest draw that is rejected and the least that is accepted are neighbours. -/
theorem remainders_equally_frequent_above_half :
    let bound : UInt64 := 13835058055282163712
    let draw : Nat → UInt64 := fun k => if k < 2 then 4611686018427387903 else 4611686018427387904
    0 < bound.toNat ∧ (threshold bound).toNat = 2 ^ 62 ∧
    {x : UInt64 | accepts bound x = true ∧ reduce bound x = 7}.ncard = 1 ∧
    StopsAt draw bound 0 2 ∧ firstAccepted draw bound 3 0 = 2 ∧ reduce bound (draw 2) = 2 ^ 62 := by
  intro bound draw
  have positive : 0 < bound.toNat := by decide
  obtain ⟨rejects, _, frequent, _, searches⟩ := remainders_equally_frequent positive
  have stops : StopsAt draw bound 0 2 := ⟨by decide, by decide, by decide⟩
  obtain ⟨found, _, remainder, _⟩ := (searches draw 0).2 2 stops
  exact ⟨positive, rejects.trans (by decide), (frequent 7 (by decide)).trans (by decide), stops,
    found 3 (by decide), remainder.trans (by decide)⟩

end TableDraw.Uniform
