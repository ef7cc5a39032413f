set_option autoImplicit false

/-!
UTF-8. A string of bytes is cut into characters and broken stretches, a broken stretch being as long
a beginning of some character as there is, or a single byte that begins none. Bytes without a broken
stretch are text.
-/

namespace TableDraw

/-- A string of bytes, as the operating system hands out names and file contents. -/
abbrev Bytes := List UInt8

namespace Utf8

/-- A character, or bytes that belong to none. -/
inductive Piece where
  | char (c : Char)
  | broken (bytes : Bytes)
  deriving DecidableEq, Repr

/-- The ranges of the bytes that have to follow a leading byte; `none` if the byte leads nothing. -/
def followers (lead : UInt8) : Option (List (UInt8 × UInt8)) :=
  if lead < 0x80 then some []
  else if lead < 0xc2 then none
  else if lead < 0xe0 then some [(0x80, 0xbf)]
  else if lead = 0xe0 then some [(0xa0, 0xbf), (0x80, 0xbf)]
  else if lead = 0xed then some [(0x80, 0x9f), (0x80, 0xbf)]
  else if lead < 0xf0 then some [(0x80, 0xbf), (0x80, 0xbf)]
  else if lead = 0xf0 then some [(0x90, 0xbf), (0x80, 0xbf), (0x80, 0xbf)]
  else if lead < 0xf4 then some [(0x80, 0xbf), (0x80, 0xbf), (0x80, 0xbf)]
  else if lead = 0xf4 then some [(0x80, 0x8f), (0x80, 0xbf), (0x80, 0xbf)]
  else none

/-- Takes bytes as long as each lies in its range: those taken, and the others. -/
def takeInRanges : List (UInt8 × UInt8) → Bytes → Bytes × Bytes
  | (low, high) :: ranges, b :: rest =>
      if low ≤ b ∧ b ≤ high then
        let next := takeInRanges ranges rest
        (b :: next.1, next.2)
      else ([], b :: rest)
  | _, rest => ([], rest)

theorem length_takeInRanges_le (ranges : List (UInt8 × UInt8)) (bytes : Bytes) :
    (takeInRanges ranges bytes).2.length ≤ bytes.length := by
  induction bytes generalizing ranges with
  | nil => cases ranges <;> simp [takeInRanges]
  | cons b rest ih =>
    match ranges with
    | [] => simp [takeInRanges]
    | (low, high) :: ranges =>
      rw [takeInRanges]
      split
      · exact Nat.le_succ_of_le (ih ranges)
      · exact Nat.le_refl _

/-- The bits that a leading byte with so many followers contributes. -/
def leadBits (lead : UInt8) : Nat → Nat
  | 0 => lead.toNat
  | 1 => lead.toNat - 0xc0
  | 2 => lead.toNat - 0xe0
  | _ => lead.toNat - 0xf0

/-- The character of a leading byte and its followers, each of which contributes six bits. -/
def assemble (lead : UInt8) (tail : Bytes) : Char :=
  Char.ofNat (tail.foldl (fun n b => n * 64 + (b.toNat - 0x80)) (leadBits lead tail.length))

/-- The piece that begins with a byte, and the bytes after it. -/
def piece (lead : UInt8) (rest : Bytes) : Piece × Bytes :=
  match followers lead with
  | none => (.broken [lead], rest)
  | some ranges =>
      let taken := takeInRanges ranges rest
      if taken.1.length = ranges.length then (.char (assemble lead taken.1), taken.2)
      else (.broken (lead :: taken.1), taken.2)

theorem length_piece_le (lead : UInt8) (rest : Bytes) :
    (piece lead rest).2.length ≤ rest.length := by
  unfold piece
  split
  · exact Nat.le_refl _
  · rename_i ranges _
    have := length_takeInRanges_le ranges rest
    dsimp only
    split <;> exact this

/-- The pieces of a string of bytes. -/
def pieces : Bytes → List Piece
  | [] => []
  | lead :: rest => (piece lead rest).1 :: pieces (piece lead rest).2
  termination_by bytes => bytes.length
  decreasing_by exact Nat.lt_succ_of_le (length_piece_le lead rest)

namespace Piece

/-- The character of an unbroken piece. -/
def char? : Piece → Option Char
  | char c => some c
  | broken _ => none

/-- The character that stands for a piece where broken ones have to show, too. -/
def orReplacement : Piece → Char
  | char c => c
  | broken _ => '\ufffd'

end Piece

/-- The text that bytes spell, if nothing in them is broken. -/
def decode? (bytes : Bytes) : Option (List Char) := (pieces bytes).mapM Piece.char?

/-- The text that bytes spell, with a replacement character for each broken piece. -/
def decodeLossy (bytes : Bytes) : List Char := (pieces bytes).map Piece.orReplacement

/-- The bytes of a text. -/
def encode (text : List Char) : Bytes := text.flatMap String.utf8EncodeChar

end Utf8

end TableDraw
