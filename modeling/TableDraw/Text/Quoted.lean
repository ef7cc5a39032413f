import TableDraw.Text.Hidden
import TableDraw.Text.Utf8

set_option autoImplicit false

/-!
Text in double quotes in which nothing is hidden: quotes, backslashes and characters that do not
show on their own are written as escapes.
-/

namespace TableDraw.Text.Quoted

/-- The escape of a code point by its number. -/
def codePoint (c : Char) : List Char :=
  ['\\', 'u', '\x7b'] ++ Nat.toDigits 16 c.toNat ++ ['\x7d']

/-- One character between the quotes. -/
def writeChar (c : Char) : List Char :=
  match c with
  | '\x00' => ['\\', '0']
  | '\t' => ['\\', 't']
  | '\n' => ['\\', 'n']
  | '\r' => ['\\', 'r']
  | '"' => ['\\', '"']
  | '\\' => ['\\', '\\']
  | c => if isHidden c then codePoint c else [c]

/-- A byte that belongs to no character: two hexadecimal digits in upper case. -/
def writeByte (b : UInt8) : List Char :=
  ['\\', 'x', (Nat.digitChar (b.toNat / 16)).toUpper, (Nat.digitChar (b.toNat % 16)).toUpper]

/-- One piece of a string of bytes between the quotes. -/
def writePiece : Utf8.Piece → List Char
  | .char c => writeChar c
  | .broken bytes => bytes.flatMap writeByte

/-- A text in quotes. -/
def ofText (text : List Char) : String :=
  String.ofList ('"' :: text.flatMap writeChar ++ ['"'])

/-- A string of bytes in quotes. -/
def ofBytes (bytes : Bytes) : String :=
  String.ofList ('"' :: (Utf8.pieces bytes).flatMap writePiece ++ ['"'])

end TableDraw.Text.Quoted
