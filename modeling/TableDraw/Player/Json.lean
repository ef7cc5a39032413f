import TableDraw.Json.Document
import TableDraw.Json.Record
import TableDraw.Player

set_option autoImplicit false

/-!
Players as JSON: a record of their own number and their team's.
-/

namespace TableDraw

open Json

namespace Player

/-- A player to be written. -/
def document (p : Player) : Document :=
  .object [("id", .integer p.id.toInt), ("team_id", .integer p.team.toInt)]

/-- The fields of a player that were read so far. -/
structure Fields where
  id : Option PlayerId := none
  team : Option TeamId := none

/-- Players as a record. -/
def record : Json.Record Fields Player where
  name := "Player"
  fields := [
    ⟨"id", Reader.signed.map (fun v fields => { fields with id := some v }), (·.id.isSome)⟩,
    ⟨"team_id", Reader.signed.map (fun v fields => { fields with team := some v }),
      (·.team.isSome)⟩]
  blank := {}
  build fields := do return ⟨← fields.id, ← fields.team⟩

/-- Reads the player that a text spells. -/
def parse (text : List Char) : Except Json.Error Player := record.reader.parse text

/-- The text of a player, without blanks. -/
def text (p : Player) : List Char := p.document.compact

end Player

end TableDraw
