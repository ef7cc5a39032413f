import TableDraw.Player.Json
import TableDraw.Seating

set_option autoImplicit false

/-!
Seatings and seat records as JSON. A seating is an object from table numbers to lists of players.
-/

namespace TableDraw

open Json

namespace SeatRecord

/-- A seat record to be written. -/
def document (r : SeatRecord) : Document :=
  .object [("table_id", .integer r.table), ("seat", .integer r.seat),
    ("player_id", .integer r.player.toInt), ("team_id", .integer r.team.toInt)]

/-- The fields of a seat record that were read so far. -/
structure Fields where
  table : Option Nat := none
  seat : Option Nat := none
  player : Option PlayerId := none
  team : Option TeamId := none

/-- Seat records as a record. Its counted numbers have 64 bits. -/
def record : Json.Record Fields SeatRecord where
  name := "SeatRecord"
  fields := [
    ⟨"table_id", Reader.unsigned.map (fun v fields => { fields with table := some v.toNat }),
      (·.table.isSome)⟩,
    ⟨"seat", Reader.unsigned.map (fun v fields => { fields with seat := some v.toNat }),
      (·.seat.isSome)⟩,
    ⟨"player_id", Reader.signed.map (fun v fields => { fields with player := some v }),
      (·.player.isSome)⟩,
    ⟨"team_id", Reader.signed.map (fun v fields => { fields with team := some v }),
      (·.team.isSome)⟩]
  blank := {}
  build fields := do return ⟨← fields.table, ← fields.seat, ← fields.player, ← fields.team⟩

/-- Reads the seat record that a text spells. -/
def parse (text : List Char) : Except Json.Error SeatRecord := record.reader.parse text

/-- The text of a seat record, without blanks. -/
def text (r : SeatRecord) : List Char := r.document.compact

end SeatRecord

namespace Seating

/-- A seating to be written: its tables in ascending order. -/
def document (s : Seating) : Document :=
  .object (s.tables.entries.map (fun e => (toString e.1, .list (e.2.map Player.document))))

/-- The reader of seatings. Table numbers have 64 bits. -/
def reader : Reader Seating :=
  (Reader.sortedMap (Reader.unsigned.map UInt64.toNat) (.list Player.record.reader)).map (⟨·⟩)

/-- Reads the seating that a text spells. -/
def parse (text : List Char) : Except Json.Error Seating := reader.parse text

/-- The text of a seating, without blanks. -/
def text (s : Seating) : List Char := s.document.compact

/-- The text of a seating with a line for every item and member. -/
def indentedText (s : Seating) : List Char := s.document.indented 0

end Seating

end TableDraw
