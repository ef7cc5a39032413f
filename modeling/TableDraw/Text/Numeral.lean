set_option autoImplicit false

/-!
Whole numbers as they are written on a command line or in a variable: an optional sign and decimal
digits, nothing else. A number that does not fit is an error of its own, found at the digit that
takes it out of range.
-/

namespace TableDraw.Numeral

/-- Why a text is not a number of the wanted range. -/
inductive Defect where
  | empty
  | invalidDigit
  | tooLarge
  | tooSmall
  deriving DecidableEq, Repr

namespace Defect

/-- The wording of a defect. -/
def message : Defect → String
  | empty => "cannot parse integer from empty string"
  | invalidDigit => "invalid digit found in string"
  | tooLarge => "number too large to fit in target type"
  | tooSmall => "number too small to fit in target type"

end Defect

/-- The value of a decimal digit. -/
def digit? (c : Char) : Option Nat := if c.isDigit then some (c.toNat - '0'.toNat) else none

/-- Reads further digits after those that make up `value`, up to `limit`. -/
def readDigits (limit : Nat) (beyond : Defect) : (value : Nat) → List Char → Except Defect Nat
  | value, [] => .ok value
  | value, c :: rest =>
      match digit? c with
      | none => .error .invalidDigit
      | some d =>
          let next := value * 10 + d
          if next ≤ limit then readDigits limit beyond next rest else .error beyond

/-- Reads at least one digit. A sign that stands alone is no number. -/
def readAll (limit : Nat) (beyond : Defect) : List Char → Except Defect Nat
  | [] => .error .invalidDigit
  | digits => readDigits limit beyond 0 digits

/-- Reads a number from zero to `limit`, with or without a plus sign. -/
def readNatural (limit : Nat) : List Char → Except Defect Nat
  | [] => .error .empty
  | '+' :: digits => readAll limit .tooLarge digits
  | digits => readAll limit .tooLarge digits

/-- Reads a 32-bit number without a minus sign. -/
def readUInt32 (text : List Char) : Except Defect UInt32 :=
  (readNatural (UInt32.size - 1) text).map UInt32.ofNat

/-- Reads a 64-bit number without a minus sign. -/
def readUInt64 (text : List Char) : Except Defect UInt64 :=
  (readNatural (UInt64.size - 1) text).map UInt64.ofNat

/-- Reads a signed 64-bit number. -/
def readInt64 : List Char → Except Defect Int64
  | '-' :: digits => (readAll (Int64.size / 2) .tooSmall digits).map (fun n => Int64.ofInt (-n))
  | text => (readNatural (Int64.size / 2 - 1) text).map (fun n => Int64.ofInt n)

end TableDraw.Numeral
