import TableDraw.Json.Lexeme

set_option autoImplicit false

/-!
The texts of a string. A character stands for itself or is written with a backslash, by a letter or
by its code units in hexadecimal digits. Half a surrogate pair can be written as well, but stands for
no character; a string with such a half can be passed over, but not be read.
-/

namespace TableDraw.Json

section Spelling

/-- Letters behind a backslash, and the characters that they stand for. -/
def escapes : List (Char × Char) :=
  [('"', '"'), ('\\', '\\'), ('/', '/'), ('b', '\x08'), ('f', '\x0c'), ('n', '\n'), ('r', '\r'),
    ('t', '\t')]

/-- Hexadecimal digits and their values. -/
def hexDigits : List (Char × Nat) :=
  "0123456789".toList.zipIdx ++ "abcdef".toList.zipIdx 10 ++ "ABCDEF".toList.zipIdx 10

/-- A character that a string holds as it is. -/
def PlainChar (c : Char) : Prop := c ≠ '"' ∧ c ≠ '\\' ∧ 0x20 ≤ c.toNat

instance (c : Char) : Decidable (PlainChar c) :=
  inferInstanceAs (Decidable (c ≠ '"' ∧ c ≠ '\\' ∧ 0x20 ≤ c.toNat))

/-- A code unit behind a backslash, in four hexadecimal digits. -/
inductive CodeUnit : Nat → List Char → Prop
  | mk {a b c d : Char} {k l m n : Nat} (first : (a, k) ∈ hexDigits) (second : (b, l) ∈ hexDigits)
      (third : (c, m) ∈ hexDigits) (fourth : (d, n) ∈ hexDigits) :
      CodeUnit (((k * 16 + l) * 16 + m) * 16 + n) ['\\', 'u', a, b, c, d]

/-- What stands for one character of a string, or for half a surrogate pair. -/
inductive Piece : Option Char → List Char → Prop
  | plain {c : Char} (plain : PlainChar c) : Piece (some c) [c]
  | escape {letter c : Char} (listed : (letter, c) ∈ escapes) : Piece (some c) ['\\', letter]
  | unit {c : Char} {t : List Char} (spelled : CodeUnit c.toNat t) : Piece (some c) t
  | pair {c : Char} {high low : Nat} {t t' : List Char} (first : CodeUnit high t)
      (second : CodeUnit low t') (leading : 0xd800 ≤ high ∧ high ≤ 0xdbff)
      (trailing : 0xdc00 ≤ low ∧ low ≤ 0xdfff)
      (whole : c.toNat = 0x10000 + (high - 0xd800) * 0x400 + (low - 0xdc00)) :
      Piece (some c) (t ++ t')
  | half {n : Nat} {t : List Char} (spelled : CodeUnit n t) (surrogate : 0xd800 ≤ n ∧ n ≤ 0xdfff) :
      Piece none t

/-- A text of a string, from behind its opening quote to its closing one. -/
inductive StringText : List (Option Char) → List Char → Prop
  | done : StringText [] ['"']
  | piece {meant : Option Char} {others : List (Option Char)} {t s : List Char}
      (piece : Piece meant t) (more : StringText others s) : StringText (meant :: others) (t ++ s)

end Spelling

section CodeUnits

variable {n : Nat} {t : List Char}

theorem hexDigit?_of_mem {c : Char} {n : Nat} (listed : (c, n) ∈ hexDigits) :
    hexDigit? c = some n := by
  have values : ∀ e ∈ hexDigits, hexDigit? e.1 = some e.2 := by decide
  exact values (c, n) listed

/-- The digits of a code unit are read as its value. -/
theorem CodeUnit.readHex (spelled : CodeUnit n t) :
    ∃ digits, t = '\\' :: 'u' :: digits ∧ ∀ rest, readHex (digits ++ rest) = .ok (n, rest) := by
  cases spelled with
  | @mk a b c d k l m n first second third fourth =>
      refine ⟨[a, b, c, d], rfl, fun rest => ?_⟩
      have digits : [a, b, c, d].mapM hexDigit? = some [k, l, m, n] := by
        simp only [List.mapM_cons, List.mapM_nil, hexDigit?_of_mem first, hexDigit?_of_mem second,
          hexDigit?_of_mem third, hexDigit?_of_mem fourth]
        rfl
      show Json.readHex (a :: b :: c :: d :: rest) = _
      simp only [Json.readHex, List.take_succ_cons, List.take_zero, digits, List.drop_succ_cons,
        List.drop_zero]

/-- No character is half a surrogate pair. -/
theorem not_surrogate (c : Char) : isTrailing c.toNat = false ∧ isLeading c.toNat = false := by
  have valid : c.toNat.isValidChar := c.valid
  simp only [isTrailing, isLeading, decide_eq_false_iff_not]
  unfold Nat.isValidChar at valid
  omega

end CodeUnits

section Reading

variable {c : Char} {s t name rest : List Char}

theorem readString_plain (plain : PlainChar c) (read : readString s = .ok (name, rest)) :
    readString (c :: s) = .ok (c :: name, rest) := by
  obtain ⟨quote, backslash, printed⟩ := plain
  rw [readString.eq_def]
  split
  · rename_i empty
    cases empty
  · rename_i closed
    cases closed
    exact absurd rfl quote
  · rename_i escaped
    cases escaped
    exact absurd rfl backslash
  · rename_i first
    cases first
    simp only [if_neg (Nat.not_lt.mpr printed), read]

theorem readString_escape (escape : readEscape t = .ok (c, s))
    (read : readString s = .ok (name, rest)) :
    readString ('\\' :: t) = .ok (c :: name, rest) := by
  rw [readString]
  split
  · rename_i failed
    rw [escape] at failed
    cases failed
  · rename_i taken
    rw [escape] at taken
    cases taken
    rw [read]

/-- A piece that stands for a character is read as that character. -/
theorem Piece.readString (piece : Piece (some c) t) (read : readString s = .ok (name, rest)) :
    readString (t ++ s) = .ok (c :: name, rest) := by
  cases piece with
  | plain plain => exact readString_plain plain read
  | @escape letter _ listed =>
      have meanings : ∀ e ∈ escapes, e.1 ≠ 'u' ∧ simpleEscape? e.1 = some e.2 := by decide
      obtain ⟨single, meant⟩ := meanings (letter, c) listed
      have escape : readEscape (letter :: s) = .ok (c, s) := by
        unfold readEscape
        split
        · rename_i empty
          cases empty
        · rename_i unit
          cases unit
          exact absurd rfl single
        · rename_i first
          cases first
          rw [meant]
      exact readString_escape escape read
  | unit spelled =>
      obtain ⟨digits, rfl, hex⟩ := spelled.readHex
      have escape : readEscape ('u' :: (digits ++ s)) = .ok (c, s) := by
        obtain ⟨trailing, leading⟩ := not_surrogate c
        simp only [readEscape, readCodeUnits, hex, trailing, leading, Bool.false_eq_true,
          ↓reduceIte, Char.ofNat_toNat]
      exact readString_escape escape read
  | @pair _ high low t t' first second leading trailing whole =>
      obtain ⟨digits, rfl, hex⟩ := first.readHex
      obtain ⟨digits', rfl, hex'⟩ := second.readHex
      have isLeading : isLeading high = true := decide_eq_true leading
      have notTrailing : isTrailing high = false :=
        decide_eq_false (fun range => absurd range.1 (by omega))
      have isTrailing : isTrailing low = true := decide_eq_true trailing
      have escape : readEscape ('u' :: (digits ++ ('\\' :: 'u' :: (digits' ++ s)))) = .ok (c, s) := by
        simp only [readEscape, readCodeUnits, hex, notTrailing, isLeading, readPair, hex', isTrailing,
          Bool.false_eq_true, ↓reduceIte, ← whole, Char.ofNat_toNat]
      have joined : '\\' :: 'u' :: digits ++ '\\' :: 'u' :: digits' ++ s =
          '\\' :: 'u' :: (digits ++ '\\' :: 'u' :: (digits' ++ s)) := by
        simp only [List.cons_append, List.append_assoc]
      rw [joined]
      exact readString_escape escape read

/-- A string all of whose pieces stand for characters is read as those characters. -/
theorem StringText.readString (spelled : StringText (name.map some) t) (rest : List Char) :
    readString (t ++ rest) = .ok (name, rest) := by
  generalize pieces : name.map some = meant at spelled
  induction spelled generalizing name with
  | done =>
      obtain rfl := List.map_eq_nil_iff.mp pieces
      show Json.readString ('"' :: rest) = _
      rw [Json.readString]
  | piece piece more ih =>
      obtain ⟨c, others, rfl, rfl, same⟩ := List.map_eq_cons_iff.mp pieces
      rw [List.append_assoc]
      exact piece.readString (ih same)

end Reading

section Skipping

variable {s t rest : List Char}

theorem skipString_plain {c : Char} (plain : PlainChar c) (s : List Char) :
    skipString (c :: s) = skipString s := by
  obtain ⟨quote, backslash, printed⟩ := plain
  rw [skipString.eq_def]
  split
  · rename_i empty
    cases empty
  · rename_i closed
    cases closed
    exact absurd rfl quote
  · rename_i escaped
    cases escaped
    exact absurd rfl backslash
  · rename_i first
    cases first
    exact if_neg (Nat.not_lt.mpr printed)

theorem skipString_escape (escape : skipEscape t = .ok s) :
    skipString ('\\' :: t) = skipString s := by
  rw [skipString]
  split
  · rename_i failed
    rw [escape] at failed
    cases failed
  · rename_i taken
    rw [escape] at taken
    cases taken
    rfl

theorem CodeUnit.skipString {n : Nat} (spelled : CodeUnit n t) (s : List Char) :
    skipString (t ++ s) = skipString s := by
  obtain ⟨digits, rfl, hex⟩ := spelled.readHex
  have escape : skipEscape ('u' :: (digits ++ s)) = .ok s := by
    simp only [skipEscape, hex]
    rfl
  exact skipString_escape escape

theorem Piece.skipString {meant : Option Char} (piece : Piece meant t) (s : List Char) :
    skipString (t ++ s) = skipString s := by
  cases piece with
  | plain plain => exact skipString_plain plain s
  | @escape letter c listed =>
      have meanings : ∀ e ∈ escapes, e.1 ≠ 'u' ∧ (simpleEscape? e.1).isSome = true := by decide
      obtain ⟨single, meant⟩ := meanings (letter, c) listed
      have escape : skipEscape (letter :: s) = .ok s := by
        unfold skipEscape
        split
        · rename_i empty
          cases empty
        · rename_i unit
          cases unit
          exact absurd rfl single
        · rename_i first
          cases first
          exact if_pos meant
      exact skipString_escape escape
  | unit spelled => exact spelled.skipString s
  | pair first second _ _ _ => rw [List.append_assoc, first.skipString, second.skipString]
  | half spelled _ => exact spelled.skipString s

/-- Every string is passed over, also one with half a surrogate pair. -/
theorem StringText.skipString {meant : List (Option Char)} (spelled : StringText meant t)
    (rest : List Char) : skipString (t ++ rest) = .ok rest := by
  induction spelled with
  | done =>
      show Json.skipString ('"' :: rest) = _
      rw [Json.skipString]
  | piece piece more ih => rw [List.append_assoc, piece.skipString, ih]

end Skipping

end TableDraw.Json
