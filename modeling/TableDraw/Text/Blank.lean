import TableDraw.Text.Ranges

set_option autoImplicit false

/-!
White space of all scripts, and trimming.
-/

namespace TableDraw.Text

/-- The code points of white space. -/
def blankRanges : Array (Nat × Nat) := #[
  (0x9, 0xd), (0x20, 0x20), (0x85, 0x85), (0xa0, 0xa0), (0x1680, 0x1680), (0x2000, 0x200a),
  (0x2028, 0x2029), (0x202f, 0x202f), (0x205f, 0x205f), (0x3000, 0x3000)]

/-- Whether a character is white space. -/
def isBlank (c : Char) : Bool := inRanges blankRanges c.toNat

/-- The text without white space in front. -/
def trimStart (text : List Char) : List Char := text.dropWhile isBlank

/-- The text without white space behind. -/
def trimEnd (text : List Char) : List Char := (text.reverse.dropWhile isBlank).reverse

end TableDraw.Text
