import TableDraw.Decimal.Double
import TableDraw.Decimal.Shortest
import TableDraw.Json.Lexeme

set_option autoImplicit false

/-!
JSON numbers. A number without fraction and exponent that fits into 64 bits is an integer; any other
number, and minus zero, is a floating-point number.
-/

namespace TableDraw.Json

/-- A number that was read. -/
inductive Number where
  /-- An integer from `-2^63` to `2^64 - 1`. -/
  | integer (n : Int)
  | float (f : Float)

namespace Number

/-- The value of a decimal digit. -/
def digitValue (c : Char) : Nat := c.toNat - '0'.toNat

/-- Appends digits to a number as long as it fits into 64 bits: the number, and how many digits it
took. -/
def absorb : (value : Nat) → List Char → Nat × Nat
  | value, [] => (value, 0)
  | value, c :: rest =>
      let next := value * 10 + digitValue c
      if next < UInt64.size then
        let more := absorb next rest
        (more.1, more.2 + 1)
      else (value, 0)

/-- The floating-point number of a sign, a significand and a power of ten. -/
def ofParts (negative : Bool) (significand : Nat) (exponent : Int) : Except Error Number :=
  match Decimal.approximate (UInt64.ofNat significand) exponent with
  | none => .error .numberOutOfRange
  | some f => .ok (.float (if negative then -f else f))

/-- The number of a sign and a magnitude below `2^64`. -/
def ofMagnitude (negative : Bool) (magnitude : Nat) : Number :=
  if !negative then .integer magnitude
  else if 0 < magnitude ∧ magnitude ≤ Int64.size / 2 then .integer (-magnitude)
  else .float (-(UInt64.ofNat magnitude).toFloat)

/-- Reads the digits of an exponent and completes a number with it. -/
def readExponentDigits (negative : Bool) (significand : Nat) (exponent : Int) (down : Bool)
    (s : List Char) : Except Error (Number × List Char) :=
  let digits := s.takeWhile Char.isDigit
  let rest := s.dropWhile Char.isDigit
  if digits.isEmpty then
    .error (if rest.isEmpty then .endOfText .value else .invalidNumber)
  else
    let power : Int := Nat.ofDigitChars 10 digits 0
    (ofParts negative significand (if down then exponent - power else exponent + power)).map
      (fun n => (n, rest))

/-- Reads an exponent from behind its letter. -/
def readExponent (negative : Bool) (significand : Nat) (exponent : Int) :
    List Char → Except Error (Number × List Char)
  | '+' :: s => readExponentDigits negative significand exponent false s
  | '-' :: s => readExponentDigits negative significand exponent true s
  | s => readExponentDigits negative significand exponent false s

/-- Reads a fraction from behind its point, and an exponent after it. Digits that the significand has
no room for are passed over. -/
def readFraction (negative : Bool) (significand : Nat) (exponent : Int) (s : List Char) :
    Except Error (Number × List Char) :=
  let digits := s.takeWhile Char.isDigit
  let rest := s.dropWhile Char.isDigit
  if digits.isEmpty then
    .error (if rest.isEmpty then .endOfText .value else .invalidNumber)
  else
    let (significand, kept) := absorb significand digits
    let exponent := exponent - kept
    match rest with
    | 'e' :: after => readExponent negative significand exponent after
    | 'E' :: after => readExponent negative significand exponent after
    | _ => (ofParts negative significand exponent).map (fun n => (n, rest))

/-- Reads a number from behind its sign. A zero in front has no digit after it. -/
def read (negative : Bool) (s : List Char) : Except Error (Number × List Char) :=
  let digits := s.takeWhile Char.isDigit
  let rest := s.dropWhile Char.isDigit
  if digits.isEmpty then
    .error (if rest.isEmpty then .endOfText .value else .invalidNumber)
  else if digits.head? = some '0' ∧ 1 < digits.length then .error .invalidNumber
  else
    let (significand, kept) := absorb 0 digits
    let dropped := digits.length - kept
    match rest with
    | '.' :: after => readFraction negative significand dropped after
    | 'e' :: after => readExponent negative significand dropped after
    | 'E' :: after => readExponent negative significand dropped after
    | _ =>
        if dropped = 0 then .ok (ofMagnitude negative significand, rest)
        else (ofParts negative significand dropped).map (fun n => (n, rest))

theorem length_readExponentDigits_le {negative down : Bool} {significand : Nat} {exponent : Int}
    {s : List Char} {n : Number} {rest : List Char}
    (h : readExponentDigits negative significand exponent down s = .ok (n, rest)) :
    rest.length ≤ s.length := by
  have bound : (s.dropWhile Char.isDigit).length ≤ s.length :=
    (List.dropWhile_sublist Char.isDigit).length_le
  unfold readExponentDigits at h
  dsimp only at h
  split at h
  · cases h
  · generalize ofParts _ _ _ = parts at h
    cases parts <;> cases h
    exact bound

theorem length_readExponent_le {negative : Bool} {significand : Nat} {exponent : Int}
    {s : List Char} {n : Number} {rest : List Char}
    (h : readExponent negative significand exponent s = .ok (n, rest)) :
    rest.length ≤ s.length := by
  unfold readExponent at h
  split at h
  · exact Nat.le_succ_of_le (length_readExponentDigits_le h)
  · exact Nat.le_succ_of_le (length_readExponentDigits_le h)
  · exact length_readExponentDigits_le h

theorem length_readFraction_le {negative : Bool} {significand : Nat} {exponent : Int}
    {s : List Char} {n : Number} {rest : List Char}
    (h : readFraction negative significand exponent s = .ok (n, rest)) :
    rest.length ≤ s.length := by
  have bound : (s.dropWhile Char.isDigit).length ≤ s.length :=
    (List.dropWhile_sublist Char.isDigit).length_le
  unfold readFraction at h
  dsimp only at h
  split at h
  · cases h
  · split at h
    · rename_i after eq
      have := length_readExponent_le h
      rw [eq, List.length_cons] at bound
      omega
    · rename_i after eq
      have := length_readExponent_le h
      rw [eq, List.length_cons] at bound
      omega
    · generalize ofParts _ _ _ = parts at h
      cases parts <;> cases h
      exact bound

theorem length_read_lt {negative : Bool} {s : List Char} {n : Number} {rest : List Char}
    (h : read negative s = .ok (n, rest)) : rest.length < s.length := by
  have bound : (s.takeWhile Char.isDigit).length + (s.dropWhile Char.isDigit).length = s.length := by
    rw [← List.length_append, List.takeWhile_append_dropWhile]
  unfold read at h
  dsimp only at h
  split at h
  · cases h
  · rename_i nonempty
    have begins : 0 < (s.takeWhile Char.isDigit).length :=
      List.length_pos_iff.2 (by simpa using nonempty)
    split at h
    · cases h
    · split at h
      · rename_i after eq
        have := length_readFraction_le h
        rw [eq, List.length_cons] at bound
        omega
      · rename_i after eq
        have := length_readExponent_le h
        rw [eq, List.length_cons] at bound
        omega
      · rename_i after eq
        have := length_readExponent_le h
        rw [eq, List.length_cons] at bound
        omega
      · split at h
        · injection h with h
          injection h with _ h
          subst h
          omega
        · generalize ofParts _ _ _ = parts at h
          cases parts <;> cases h
          omega

/-- A number as something found. -/
def found : Number → Found
  | integer n => .integer n
  | float f => .floating (Decimal.text f)

end Number

end TableDraw.Json
