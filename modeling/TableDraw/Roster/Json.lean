import TableDraw.Json.Document
import TableDraw.Json.Record
import TableDraw.Roster

set_option autoImplicit false

/-!
Rosters as JSON: a record of the teams, an object from team numbers to lists of player numbers, and
the two sizes.
-/

namespace TableDraw.Roster

open Json

/-- The object of a map whose values are lists of numbers. -/
def teamsDocument (teams : SortedMap TeamId (List PlayerId)) : Document :=
  .object (teams.entries.map (fun e =>
    (toString e.1, .list (e.2.map (fun id => .integer id.toInt)))))

/-- A roster to be written. -/
def document (r : Roster) : Document :=
  .object [("teams", teamsDocument r.teams), ("team_size", .integer r.teamSize.toNat),
    ("table_size", .integer r.tableSize.toNat)]

/-- The fields of a roster that were read so far. -/
structure Fields where
  teams : Option (SortedMap TeamId (List PlayerId)) := none
  teamSize : Option UInt64 := none
  tableSize : Option UInt64 := none

/-- Rosters as a record. -/
def record : Json.Record Fields Roster where
  name := "TeamSetup"
  fields := [
    ⟨"teams", (Reader.sortedMap .signed (.list .signed)).map
      (fun v fields => { fields with teams := some v }), (·.teams.isSome)⟩,
    ⟨"team_size", Reader.unsigned.map (fun v fields => { fields with teamSize := some v }),
      (·.teamSize.isSome)⟩,
    ⟨"table_size", Reader.unsigned.map (fun v fields => { fields with tableSize := some v }),
      (·.tableSize.isSome)⟩]
  blank := {}
  build fields := do return ⟨← fields.teams, ← fields.teamSize, ← fields.tableSize⟩

/-- Reads the roster that a text spells. -/
def parse (text : List Char) : Except Json.Error Roster := record.reader.parse text

/-- The text of a roster, without blanks. -/
def text (r : Roster) : List Char := r.document.compact

end TableDraw.Roster
