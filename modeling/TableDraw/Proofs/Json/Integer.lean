import Mathlib.Algebra.Group.Int.Defs
import Mathlib.Algebra.Group.Nat.Defs
import TableDraw.Json.Reader
import TableDraw.Proofs.Json.Spelling

set_option autoImplicit false

/-!
Reading integers. An integer in range is read back from its digits, whatever follows, unless that
would make it another number.
-/

namespace TableDraw.Json

/-- Characters before which a number may end. -/
def EndsNumber : List Char → Prop
  | [] => True
  | c :: _ => c.isDigit = false ∧ c ≠ '.' ∧ c ≠ 'e' ∧ c ≠ 'E'

theorem endsNumber_cons {c : Char} (rest : List Char)
    (follows : c.isDigit = false ∧ c ≠ '.' ∧ c ≠ 'e' ∧ c ≠ 'E') : EndsNumber (c :: rest) :=
  follows

namespace Number

theorem isDigit_of_mem_toDigits {n : Nat} {c : Char} (member : c ∈ Nat.toDigits 10 n) :
    c.isDigit = true :=
  Nat.isDigit_of_mem_toDigits (by decide) (by decide) member

theorem takeWhile_toDigits (n : Nat) {rest : List Char} (ends : EndsNumber rest) :
    (Nat.toDigits 10 n ++ rest).takeWhile Char.isDigit = Nat.toDigits 10 n := by
  rw [List.takeWhile_append_of_pos (fun c member => isDigit_of_mem_toDigits member)]
  cases rest with
  | nil => rw [List.takeWhile_nil, List.append_nil]
  | cons c rest => rw [List.takeWhile_cons_of_neg (by simp [ends.1]), List.append_nil]

theorem dropWhile_toDigits (n : Nat) {rest : List Char} (ends : EndsNumber rest) :
    (Nat.toDigits 10 n ++ rest).dropWhile Char.isDigit = rest := by
  rw [List.dropWhile_append_of_pos (fun c member => isDigit_of_mem_toDigits member)]
  cases rest with
  | nil => rfl
  | cons c rest => rw [List.dropWhile_cons_of_neg (by simp [ends.1])]

/-- A number other than zero does not begin with a zero. -/
theorem head_toDigits {n : Nat} (positive : 0 < n) : (Nat.toDigits 10 n).head? ≠ some '0' := by
  induction n using Nat.strongRecOn with
  | ind n ih =>
      by_cases small : n < 10
      · have digits : ∀ d : Fin 10, 0 < d.val → [d.val.digitChar].head? ≠ some '0' := by decide
        rw [Nat.toDigits_of_lt_base small]
        exact digits ⟨n, small⟩ positive
      · rw [Nat.toDigits_of_base_le (by decide) (by omega), List.head?_append]
        have first := ih (n / 10) (by omega) (by omega)
        cases found : (Nat.toDigits 10 (n / 10)).head? with
        | none => exact absurd (List.head?_eq_none_iff.mp found) Nat.toDigits_ne_nil
        | some c =>
            rw [found] at first
            exact first

theorem single_zero (n : Nat) :
    ¬ ((Nat.toDigits 10 n).head? = some '0' ∧ 1 < (Nat.toDigits 10 n).length) := by
  rintro ⟨zero, long⟩
  by_cases positive : 0 < n
  · exact head_toDigits positive zero
  · obtain rfl : n = 0 := by omega
    rw [Nat.toDigits_zero] at long
    exact absurd long (by decide)

/-- As long as the number they make fits, all digits are taken. -/
theorem absorb_eq (digits : List Char) (value : Nat)
    (fits : Nat.ofDigitChars 10 digits value < UInt64.size) :
    absorb value digits = (Nat.ofDigitChars 10 digits value, digits.length) := by
  induction digits generalizing value with
  | nil => rw [absorb, Nat.ofDigitChars_nil, List.length_nil]
  | cons c rest ih =>
      rw [Nat.ofDigitChars_cons] at fits ⊢
      have next : value * 10 + digitValue c = 10 * value + (c.toNat - '0'.toNat) := by
        rw [digitValue, Nat.mul_comm]
      rw [← next] at fits ⊢
      have within : value * 10 + digitValue c < UInt64.size := by
        rw [Nat.ofDigitChars_eq_ofDigitChars_zero] at fits
        have grows := Nat.le_mul_of_pos_left (value * 10 + digitValue c)
          (Nat.pow_pos (n := rest.length) (by decide : 0 < 10))
        omega
      rw [absorb]
      simp only [within, ↓reduceIte, ih _ fits, List.length_cons]

theorem read_toDigits (negative : Bool) {n : Nat} (fits : n < UInt64.size) {rest : List Char}
    (ends : EndsNumber rest) :
    read negative (Nat.toDigits 10 n ++ rest) = .ok (ofMagnitude negative n, rest) := by
  have taken : absorb 0 (Nat.toDigits 10 n) = (n, (Nat.toDigits 10 n).length) := by
    rw [absorb_eq _ _ (by rwa [Nat.ofDigitChars_ten_toDigits]), Nat.ofDigitChars_ten_toDigits]
  have nonempty : (Nat.toDigits 10 n).isEmpty = false := by
    rw [List.isEmpty_eq_false_iff]
    exact Nat.toDigits_ne_nil
  unfold read
  simp only [takeWhile_toDigits n ends, dropWhile_toDigits n ends, nonempty, single_zero n, taken,
    Nat.sub_self, ↓reduceIte, Bool.false_eq_true]
  split
  · exact absurd rfl ends.2.1
  · exact absurd rfl ends.2.2.1
  · exact absurd rfl ends.2.2.2
  · rfl

end Number

namespace Reader

theorem head_toDigits_isDigit (n : Nat) :
    ∃ c more, Nat.toDigits 10 n = c :: more ∧ c.isDigit = true := by
  cases digits : Nat.toDigits 10 n with
  | nil => exact absurd digits Nat.toDigits_ne_nil
  | cons c more =>
      refine ⟨c, more, rfl, Number.isDigit_of_mem_toDigits (n := n) ?_⟩
      rw [digits]
      exact List.mem_cons_self

theorem integerText_begins (n : Int) :
    ∃ c more, Document.integerText n = c :: more ∧ (c.isDigit = true ∨ c = '-') := by
  cases n with
  | ofNat n =>
      obtain ⟨c, more, digits, digit⟩ := head_toDigits_isDigit n
      exact ⟨c, more, digits, .inl digit⟩
  | negSucc n => exact ⟨'-', _, rfl, .inr rfl⟩

theorem isBlank_of_isDigit {c : Char} (digit : c.isDigit = true) : isBlank c = false := by
  unfold isBlank
  simp only [decide_eq_false_iff_not]
  rintro (rfl | rfl | rfl | rfl) <;> exact absurd digit (by decide)

theorem ne_minus_of_isDigit {c : Char} (digit : c.isDigit = true) : c ≠ '-' := by
  rintro rfl
  exact absurd digit (by decide)

variable {expected : Expected} {least greatest : Int}

/-- An integer in 64 bits, signed or unsigned, that is in the range of a reader is read from any of
its texts. -/
theorem readInteger_integerText {n : Int} (low : -2 ^ 63 ≤ n) (high : n < 2 ^ 64)
    (inRange : least ≤ n ∧ n ≤ greatest) {b rest : List Char} (blank : Blank b)
    (ends : EndsNumber rest) :
    readInteger expected least greatest (b ++ (Document.integerText n ++ rest)) = .ok (n, rest) := by
  unfold readInteger
  rw [dropBlank_append blank]
  cases n with
  | ofNat n =>
      obtain ⟨c, more, digits, digit⟩ := head_toDigits_isDigit n
      have fits : n < UInt64.size := by
        rw [Int.ofNat_eq_natCast] at high
        simp only [UInt64.size]
        omega
      have number := Number.read_toDigits false fits ends
      simp only [Document.integerText, digits, List.cons_append] at number ⊢
      rw [dropBlank_cons (isBlank_of_isDigit digit)]
      split
      · rename_i sign
        cases sign
        exact absurd rfl (ne_minus_of_isDigit digit)
      · rename_i first
        cases first
        rw [if_pos digit, number]
        show ite _ _ _ = _
        exact if_pos inRange
      · rename_i empty
        cases empty
  | negSucc n =>
      have small : n + 1 ≤ Int64.size / 2 := by
        simp only [Int64.size]
        omega
      have number := Number.read_toDigits true (n := n + 1)
        (by simp only [Int64.size, UInt64.size] at small ⊢; omega) ends
      have magnitude : Number.ofMagnitude true (n + 1) = .integer (.negSucc n) := by
        rw [Number.ofMagnitude, if_neg (by decide), if_pos ⟨Nat.succ_pos n, small⟩]
        rfl
      simp only [Document.integerText, List.cons_append]
      rw [dropBlank_cons (by decide)]
      show (Number.read true _).bind _ = _
      rw [number, magnitude]
      exact if_pos inRange

end Reader

end TableDraw.Json
