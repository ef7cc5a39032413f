set_option autoImplicit false

/-!
The text of a double: of all decimal numbers that round to it, those with the fewest digits, and of
those the nearest. A number whose first digit is worth between `10^-5` and `10^15` is written with a
point, any other with an exponent.
-/

namespace TableDraw.Decimal

/-- A positive double `mantissa * 2^exponent`, and whether the double below it is only half as far
away as the one above. -/
structure Binary where
  mantissa : Nat
  exponent : Int
  closeBelow : Bool

namespace Binary

/-- The magnitude of a finite double, from its bits. -/
def ofBits (bits : UInt64) : Binary :=
  let biased := ((bits >>> 52) &&& 0x7ff).toNat
  let fraction := (bits &&& 0xfffffffffffff).toNat
  if biased = 0 then ⟨fraction, -1074, false⟩
  else ⟨Nat.pow 2 52 + fraction, (biased : Int) - 1075, fraction = 0 ∧ 1 < biased⟩

/-- `quarters` quarters of the last binary place, in a unit shared with `decimalUnits`. -/
def quarterUnits (b : Binary) (place : Int) (quarters : Nat) : Nat :=
  quarters * Nat.pow 10 (-place).toNat * Nat.pow 2 (b.exponent - 2).toNat

/-- `digits * 10^place`, in a unit shared with `quarterUnits`. -/
def decimalUnits (b : Binary) (place : Int) (digits : Nat) : Nat :=
  digits * Nat.pow 10 place.toNat * Nat.pow 2 (2 - b.exponent).toNat

/-- Whether `digits * 10^place` rounds to the double. A decimal number halfway between two doubles
rounds to the one with an even mantissa. -/
def holds (b : Binary) (place : Int) (digits : Nat) : Bool :=
  let low := b.quarterUnits place (4 * b.mantissa - if b.closeBelow then 1 else 2)
  let high := b.quarterUnits place (4 * b.mantissa + 2)
  let value := b.decimalUnits place digits
  if b.mantissa % 2 = 0 then low ≤ value ∧ value ≤ high else low < value ∧ value < high

/-- The multiple of `10^place` that rounds to the double, if there is one; of two the nearer, and of
two equally near the even one. -/
def nearestAt? (b : Binary) (place : Int) : Option Nat :=
  let exact := b.quarterUnits place (4 * b.mantissa)
  let below := exact / b.decimalUnits place 1
  let above := below + 1
  let gapBelow := exact - b.decimalUnits place below
  let gapAbove := b.decimalUnits place above - exact
  let belowFirst := gapBelow < gapAbove ∨ (gapBelow = gapAbove ∧ below % 2 = 0)
  match b.holds place below, b.holds place above with
  | true, true => some (if belowFirst then below else above)
  | true, false => some below
  | false, true => some above
  | false, false => none

/-- The coarsest decimal place, from `place` down over `count` places, with a multiple that rounds to
the double: that multiple and the place. -/
def coarsest (b : Binary) : (count : Nat) → (place : Int) → Nat × Int
  | 0, place => (b.quarterUnits place (4 * b.mantissa) / b.decimalUnits place 1, place)
  | count + 1, place =>
      match b.nearestAt? place with
      | some digits => (digits, place)
      | none => b.coarsest count (place - 1)

/-- A decimal place at or above the first digit's, and by less than two places. -/
def firstPlace (b : Binary) : Int :=
  let numerator := b.mantissa * Nat.pow 2 b.exponent.toNat
  let denominator := Nat.pow 2 (-b.exponent).toNat
  ((Nat.toDigits 10 numerator).length : Int) - (Nat.toDigits 10 denominator).length + 1

/-- The shortest digits of a double and the place of the last one. Seventeen digits are enough. -/
def shortest (b : Binary) : Nat × Int := b.coarsest 20 b.firstPlace

end Binary

/-- Digits with a last place, laid out as a number. -/
def layOut (digits : List Char) (place : Int) : List Char :=
  let first := place + digits.length - 1
  if -5 ≤ first ∧ first ≤ 15 then
    if 0 ≤ place then digits ++ List.replicate place.toNat '0' ++ ['.', '0']
    else if 0 ≤ first then
      digits.take (first.toNat + 1) ++ '.' :: digits.drop (first.toNat + 1)
    else ['0', '.'] ++ List.replicate (-first - 1).toNat '0' ++ digits
  else
    let mantissa :=
      match digits with
      | [] => []
      | [d] => [d]
      | d :: rest => d :: '.' :: rest
    let sign := if first < 0 then '-' else '+'
    mantissa ++ 'e' :: sign :: Nat.toDigits 10 first.natAbs

/-- The text of a finite double. -/
def text (f : Float) : String :=
  let bits := f.toBits
  let sign := if bits >>> 63 = 1 then ['-'] else []
  let b := Binary.ofBits bits
  if b.mantissa = 0 then String.ofList (sign ++ ['0', '.', '0'])
  else
    let (digits, place) := b.shortest
    String.ofList (sign ++ layOut (Nat.toDigits 10 digits) place)

end TableDraw.Decimal
