import Mathlib.Algebra.Group.Nat.Defs
import Mathlib.Algebra.Group.Int.Defs
import TableDraw.Text.Numeral

set_option autoImplicit false

/-!
Which texts spell a number, and which number. Reading gives that very number as long as it fits, and
nothing for any other text: no number is cut short or wraps around.
-/

namespace TableDraw.Numeral

section Spelling

/-- One decimal digit or more. -/
structure Digits (text : List Char) : Prop where
  nonempty : text ≠ []
  decimal : ∀ c ∈ text, c.isDigit = true

/-- A text of digits, perhaps behind a plus sign, and the number that it spells. -/
inductive Natural : List Char → Nat → Prop
  | plain {digits : List Char} (spelled : Digits digits) :
      Natural digits (Nat.ofDigitChars 10 digits 0)
  | plus {digits : List Char} (spelled : Digits digits) :
      Natural ('+' :: digits) (Nat.ofDigitChars 10 digits 0)

/-- A text of digits, perhaps behind a plus or minus sign, and the number that it spells. -/
inductive Integer : List Char → Int → Prop
  | natural {text : List Char} {n : Nat} (spelled : Natural text n) : Integer text n
  | minus {digits : List Char} (spelled : Digits digits) :
      Integer ('-' :: digits) (-(Nat.ofDigitChars 10 digits 0 : Nat))

/-- No digit stands for a sign. -/
theorem not_digits_cons {c : Char} (sign : c.isDigit = false) (rest : List Char) :
    ¬ Digits (c :: rest) := by
  intro spelled
  have digit := spelled.decimal c List.mem_cons_self
  rw [sign] at digit
  cases digit

theorem natural_plus_iff (digits : List Char) (n : Nat) :
    Natural ('+' :: digits) n ↔ Digits digits ∧ n = Nat.ofDigitChars 10 digits 0 := by
  constructor
  · intro spelled
    cases spelled with
    | plain spelled => exact absurd spelled (not_digits_cons (by decide) digits)
    | plus spelled => exact ⟨spelled, rfl⟩
  · rintro ⟨spelled, rfl⟩
    exact .plus spelled

theorem natural_iff_of_unsigned {text : List Char} (unsigned : ∀ digits, text ≠ '+' :: digits)
    (n : Nat) : Natural text n ↔ Digits text ∧ n = Nat.ofDigitChars 10 text 0 := by
  constructor
  · intro spelled
    cases spelled with
    | plain spelled => exact ⟨spelled, rfl⟩
    | @plus digits spelled => exact absurd rfl (unsigned digits)
  · rintro ⟨spelled, rfl⟩
    exact .plain spelled

theorem integer_minus_iff (digits : List Char) (n : Int) :
    Integer ('-' :: digits) n ↔ Digits digits ∧ n = -(Nat.ofDigitChars 10 digits 0 : Nat) := by
  constructor
  · intro spelled
    cases spelled with
    | natural spelled =>
        cases spelled with
        | plain spelled => exact absurd spelled (not_digits_cons (by decide) digits)
    | minus spelled => exact ⟨spelled, rfl⟩
  · rintro ⟨spelled, rfl⟩
    exact .minus spelled

theorem integer_iff_of_nonnegative {text : List Char} (nonnegative : ∀ digits, text ≠ '-' :: digits)
    (n : Int) : Integer text n ↔ ∃ m : Nat, Natural text m ∧ n = m := by
  constructor
  · intro spelled
    cases spelled with
    | natural spelled => exact ⟨_, spelled, rfl⟩
    | @minus digits spelled => exact absurd rfl (nonnegative digits)
  · rintro ⟨m, spelled, rfl⟩
    exact .natural spelled

end Spelling

section Reading

variable {limit : Nat} {beyond : Defect}

/-- Further digits make a number no smaller. -/
theorem le_ofDigitChars (digits : List Char) (value : Nat) :
    value ≤ Nat.ofDigitChars 10 digits value := by
  rw [Nat.ofDigitChars_eq_ofDigitChars_zero]
  have grows := Nat.le_mul_of_pos_left value (Nat.pow_pos (n := digits.length) (by decide : 0 < 10))
  omega

theorem digit?_of_isDigit {c : Char} (digit : c.isDigit = true) :
    digit? c = some (c.toNat - '0'.toNat) :=
  if_pos digit

/-- The induction is on the digits that are still to be read; the number that those before them make
up is within the limit. -/
theorem readDigits_eq_ok_iff (digits : List Char) {value : Nat} (within : value ≤ limit) (n : Nat) :
    readDigits limit beyond value digits = .ok n ↔
      (∀ c ∈ digits, c.isDigit = true) ∧ n = Nat.ofDigitChars 10 digits value ∧ n ≤ limit := by
  induction digits generalizing value with
  | nil =>
      rw [readDigits, Nat.ofDigitChars_nil]
      constructor
      · intro read
        cases read
        exact ⟨nofun, rfl, within⟩
      · rintro ⟨_, rfl, _⟩
        rfl
  | cons c rest ih =>
      rw [readDigits]
      cases digit : c.isDigit with
      | false =>
          have worthless : digit? c = none := if_neg (by rw [digit]; exact Bool.false_ne_true)
          simp only [worthless, reduceCtorEq, false_iff]
          rintro ⟨decimal, _⟩
          rw [decimal c List.mem_cons_self] at digit
          cases digit
      | true =>
          have next : value * 10 + (c.toNat - '0'.toNat) = 10 * value + (c.toNat - '0'.toNat) := by
            rw [Nat.mul_comm]
          simp only [digit?_of_isDigit digit, next, Nat.ofDigitChars_cons, List.forall_mem_cons,
            digit, true_and]
          split
          · rename_i small
            exact ih small
          · rename_i great
            simp only [reduceCtorEq, false_iff]
            rintro ⟨_, rfl, fits⟩
            exact great (Nat.le_trans (le_ofDigitChars rest _) fits)

theorem readAll_eq_ok_iff (text : List Char) (n : Nat) :
    readAll limit beyond text = .ok n ↔
      (Digits text ∧ n = Nat.ofDigitChars 10 text 0) ∧ n ≤ limit := by
  cases text with
  | nil =>
      rw [readAll]
      simp only [reduceCtorEq, false_iff]
      rintro ⟨⟨spelled, _⟩, _⟩
      exact spelled.nonempty rfl
  | cons c rest =>
      show readDigits limit beyond 0 (c :: rest) = .ok n ↔ _
      rw [readDigits_eq_ok_iff _ (Nat.zero_le limit)]
      constructor
      · rintro ⟨decimal, value, fits⟩
        exact ⟨⟨⟨List.cons_ne_nil c rest, decimal⟩, value⟩, fits⟩
      · rintro ⟨⟨spelled, value⟩, fits⟩
        exact ⟨spelled.decimal, value, fits⟩

theorem readNatural_eq_ok_iff (text : List Char) (n : Nat) :
    readNatural limit text = .ok n ↔ Natural text n ∧ n ≤ limit := by
  unfold readNatural
  split
  · simp only [reduceCtorEq, false_iff]
    rintro ⟨spelled, _⟩
    cases spelled with
    | plain spelled => exact spelled.nonempty rfl
  · rw [readAll_eq_ok_iff, natural_plus_iff]
  · rename_i text nonempty unsigned
    rw [readAll_eq_ok_iff, natural_iff_of_unsigned unsigned]

end Reading

section Words

/-- A result that is mapped comes from one of what is mapped. -/
theorem map_eq_ok_iff {α β : Type} {f : α → β} {read : Except Defect α} {b : β} :
    read.map f = .ok b ↔ ∃ a, read = .ok a ∧ f a = b := by
  cases read with
  | error defect => exact ⟨nofun, nofun⟩
  | ok a =>
      constructor
      · intro mapped
        exact ⟨a, rfl, Except.ok.inj mapped⟩
      · rintro ⟨_, found, rfl⟩
        cases found
        rfl

/-- A natural number that was read may be taken for an integer. -/
theorem map_natCast {β : Type} (f : Int → β) (read : Except Defect Nat) :
    Except.map f (read >>= fun n => pure (n : Int)) =
      read.map (fun n : Nat => f n) := by
  cases read <;> rfl

theorem readUInt32_eq_ok_iff (text : List Char) (v : UInt32) :
    readUInt32 text = .ok v ↔ Natural text v.toNat := by
  simp only [readUInt32, map_eq_ok_iff, readNatural_eq_ok_iff]
  constructor
  · rintro ⟨n, ⟨spelled, fits⟩, rfl⟩
    rwa [UInt32.toNat_ofNat_of_lt' (Nat.lt_of_le_pred (by decide) fits)]
  · intro spelled
    exact ⟨v.toNat, ⟨spelled, Nat.le_pred_of_lt v.toNat_lt⟩, UInt32.ofNat_toNat⟩

theorem readUInt64_eq_ok_iff (text : List Char) (v : UInt64) :
    readUInt64 text = .ok v ↔ Natural text v.toNat := by
  simp only [readUInt64, map_eq_ok_iff, readNatural_eq_ok_iff]
  constructor
  · rintro ⟨n, ⟨spelled, fits⟩, rfl⟩
    rwa [UInt64.toNat_ofNat_of_lt' (Nat.lt_of_le_pred (by decide) fits)]
  · intro spelled
    exact ⟨v.toNat, ⟨spelled, Nat.le_pred_of_lt v.toNat_lt⟩, UInt64.ofNat_toNat⟩

/-- There is one more number below zero than above it. -/
theorem readInt64_eq_ok_iff (text : List Char) (v : Int64) :
    readInt64 text = .ok v ↔ Integer text v.toInt := by
  have low := v.le_toInt
  have high := v.toInt_lt
  have half : Int64.size / 2 = 2 ^ 63 := by decide
  unfold readInt64
  split
  · rename_i digits
    simp only [map_natCast, map_eq_ok_iff, readAll_eq_ok_iff, integer_minus_iff, half]
    constructor
    · rintro ⟨n, ⟨⟨spelled, value⟩, fits⟩, rfl⟩
      rw [Int64.toInt_ofInt_of_le (by omega) (by omega), value]
      exact ⟨spelled, rfl⟩
    · rintro ⟨spelled, value⟩
      refine ⟨_, ⟨⟨spelled, rfl⟩, by omega⟩, ?_⟩
      rw [← value, Int64.ofInt_toInt]
  · rename_i text nonnegative
    simp only [map_natCast, map_eq_ok_iff, readNatural_eq_ok_iff,
      integer_iff_of_nonnegative nonnegative, half]
    constructor
    · rintro ⟨n, ⟨spelled, fits⟩, rfl⟩
      exact ⟨n, spelled, Int64.toInt_ofInt_of_le (by omega) (by omega)⟩
    · rintro ⟨n, spelled, value⟩
      refine ⟨n, ⟨spelled, by omega⟩, ?_⟩
      rw [← value, Int64.ofInt_toInt]

end Words

end TableDraw.Numeral
