import Mathlib.Data.Nat.Find
import TableDraw.Proofs.Uniform
import TableDraw.Shuffle

set_option autoImplicit false

/-!
The choices of a shuffle. `Choosable` says which choices there are, and `Drawn` which of them a
stream of draws makes, if it comes to an end: each slot takes the first draw that is accepted after
those of the slots before it. What a stream that starts over makes is what `choices` finds.
-/

namespace TableDraw

namespace ChaCha

/-- The block counter is a word, so the stream starts over with it. -/
theorem draw_add_period (key : Vector UInt32 8) (position : Nat) :
    draw key (position + period) = draw key position := by
  have index : (position + period) / 8 = position / 8 + UInt64.size :=
    Nat.add_mul_div_left position UInt64.size (by decide)
  have place : (position + period) % 8 = position % 8 := Nat.add_mul_mod_self_left _ _ _
  have counter : UInt64.ofNat (position / 8 + UInt64.size) = UInt64.ofNat (position / 8) := by
    rw [← UInt64.toNat_inj, UInt64.toNat_ofNat', UInt64.toNat_ofNat']
    exact Nat.add_mod_right _ _
  simp only [draw, blockDraws, index, place, counter]

theorem period_pos : 0 < period := by decide

end ChaCha

namespace Shuffle

/-- One choice for each of the slots `last`, `last - 1`, … 1, none of them past its slot. -/
structure Choosable (last : Nat) (choices : List Nat) : Prop where
  length : choices.length = last
  within : ∀ (k : Nat) (bound : k < choices.length), choices[k] ≤ last - k

theorem choosable_zero_iff (choices : List Nat) : Choosable 0 choices ↔ choices = [] := by
  constructor
  · intro choosable
    exact List.eq_nil_of_length_eq_zero choosable.length
  · rintro rfl
    exact ⟨rfl, fun k bound => absurd bound (Nat.not_lt_zero k)⟩

theorem choosable_cons_iff (last choice : Nat) (rest : List Nat) :
    Choosable (last + 1) (choice :: rest) ↔ choice ≤ last + 1 ∧ Choosable last rest := by
  constructor
  · intro choosable
    refine ⟨choosable.within 0 (Nat.succ_pos _), Nat.succ.inj choosable.length, ?_⟩
    intro k bound
    have next := choosable.within (k + 1) (Nat.succ_lt_succ bound)
    rwa [List.getElem_cons_succ, Nat.add_sub_add_right] at next
  · rintro ⟨first, others⟩
    refine ⟨congrArg Nat.succ others.length, ?_⟩
    intro k bound
    cases k with
    | zero => exact first
    | succ k =>
        rw [List.getElem_cons_succ, Nat.add_sub_add_right]
        exact others.within k (Nat.lt_of_succ_lt_succ bound)

theorem Choosable.exists_cons {last : Nat} {choices : List Nat}
    (choosable : Choosable (last + 1) choices) :
    ∃ choice rest, choices = choice :: rest ∧ choice ≤ last + 1 ∧ Choosable last rest := by
  obtain ⟨choice, rest, rfl⟩ := List.exists_cons_of_length_eq_add_one choosable.length
  exact ⟨choice, rest, rfl, (choosable_cons_iff last choice rest).mp choosable⟩

/-- The choices for the slots `last`, … 1 that a stream makes from a position on. Slot `i` passes
over the draws below `2^64 mod (i + 1)` and takes the remainder of the next one. -/
inductive Drawn (draw : Nat → UInt64) : (last position : Nat) → List Nat → Prop
  | done (position : Nat) : Drawn draw 0 position []
  | slot {last position hit : Nat} {rest : List Nat} (later : position ≤ hit)
      (rejected : ∀ k, position ≤ k → k < hit → (draw k).toNat < 2 ^ 64 % (last + 2))
      (accepted : 2 ^ 64 % (last + 2) ≤ (draw hit).toNat)
      (others : Drawn draw last (hit + 1) rest) :
      Drawn draw (last + 1) position ((draw hit).toNat % (last + 2) :: rest)

theorem choices_choosable (draw : Nat → UInt64) (last position : Nat) :
    Choosable last (choices draw last position) := by
  induction last generalizing position with
  | zero => exact (choosable_zero_iff _).mpr rfl
  | succ last ih =>
      rw [choices, choosable_cons_iff]
      exact ⟨Nat.le_of_lt_succ (Uniform.reduce_lt (Nat.succ_pos _) _), ih _⟩

section Stream

variable {draw : Nat → UInt64} {last position : Nat}

theorem Drawn.choosable {made : List Nat} (drawn : Drawn draw last position made) :
    Choosable last made := by
  induction drawn with
  | done position => exact (choosable_zero_iff _).mpr rfl
  | slot later rejected accepted others ih =>
      exact (choosable_cons_iff _ _ _).mpr ⟨Nat.le_of_lt_succ (Nat.mod_lt _ (Nat.succ_pos _)), ih⟩

/-- What a stream that starts over makes of the slots is what `choices` finds. -/
theorem Drawn.eq_choices (periodic : ∀ k, draw (k + ChaCha.period) = draw k)
    {made : List Nat} (drawn : Drawn draw last position made) (bound : last + 1 < 2 ^ 64) :
    made = choices draw last position := by
  induction drawn with
  | done position => rfl
  | @slot last position hit rest later rejected accepted others ih =>
      have word : (UInt64.ofNat (last + 2)).toNat = last + 2 := by
        rw [UInt64.toNat_ofNat', Nat.mod_eq_of_lt bound]
      have positive : 0 < (UInt64.ofNat (last + 2)).toNat := by omega
      have first : Uniform.firstAccepted draw (UInt64.ofNat (last + 2)) ChaCha.period position =
          hit := by
        refine Uniform.firstAccepted_of_periodic periodic ChaCha.period_pos later ?_ ?_
        · intro k after before
          rw [← Bool.not_eq_true, Uniform.accepts_iff positive, word]
          exact Nat.not_le_of_lt (rejected k after before)
        · rw [Uniform.accepts_iff positive, word]
          exact accepted
      simp only [choices, first, Uniform.reduce_eq, word, ih (by omega)]

/-- A draw of a stream that starts over comes again after any position. -/
theorem exists_later_draw (periodic : ∀ k, draw (k + ChaCha.period) = draw k) (k position : Nat) :
    ∃ later, position ≤ later ∧ draw later = draw k := by
  induction position with
  | zero => exact ⟨k, Nat.zero_le k, rfl⟩
  | succ position ih =>
      obtain ⟨later, after, same⟩ := ih
      have onward := ChaCha.period_pos
      exact ⟨later + ChaCha.period, by omega, (periodic later).trans same⟩

/-- A stream that starts over makes its choices if it holds a draw to accept for every slot. -/
theorem exists_drawn (periodic : ∀ k, draw (k + ChaCha.period) = draw k)
    (accepting : ∀ i, 1 ≤ i → i ≤ last → ∃ k, 2 ^ 64 % (i + 1) ≤ (draw k).toNat)
    (position : Nat) : ∃ made, Drawn draw last position made := by
  induction last generalizing position with
  | zero => exact ⟨[], .done position⟩
  | succ last ih =>
      obtain ⟨k, accepted⟩ := accepting (last + 1) (Nat.succ_pos last) (Nat.le_refl _)
      have ahead : ∃ hit, position ≤ hit ∧ 2 ^ 64 % (last + 2) ≤ (draw hit).toNat := by
        obtain ⟨hit, later, same⟩ := exists_later_draw periodic k position
        exact ⟨hit, later, same ▸ accepted⟩
      classical
      obtain ⟨later, first⟩ := Nat.find_spec ahead
      obtain ⟨rest, others⟩ := ih (fun i some within => accepting i some (Nat.le_succ_of_le within))
        (Nat.find ahead + 1)
      refine ⟨_, .slot later ?_ first others⟩
      intro i after before
      by_contra high
      exact Nat.find_min ahead before ⟨after, Nat.le_of_not_lt high⟩

end Stream

end Shuffle

end TableDraw
