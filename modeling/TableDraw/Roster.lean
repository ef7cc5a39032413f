import TableDraw.SortedMap
import TableDraw.Player

set_option autoImplicit false

/-!
The roster of a draw: the teams with their players, the number of players a team is to field and
the number of seats at a table.
-/

namespace TableDraw

/-- Teams, the players each is to field, and the seats at each table. -/
structure Roster where
  teams : SortedMap TeamId (List PlayerId)
  teamSize : UInt64
  tableSize : UInt64
  deriving DecidableEq, Repr, Inhabited

namespace Roster

/-- A roster without teams. -/
def ofSizes (teamSize tableSize : UInt64) : Roster := ⟨.empty, teamSize, tableSize⟩

/-- The roster with a team's players, in place of those it listed for that team before. -/
def withTeam (r : Roster) (team : TeamId) (players : List PlayerId) : Roster :=
  { r with teams := r.teams.insert team players }

/-- The roster without a team. -/
def withoutTeam (r : Roster) (team : TeamId) : Roster :=
  { r with teams := r.teams.erase team }

/-- The number of teams. -/
def teamCount (r : Roster) : Nat := r.teams.size

/-- The number of players if every team fields as many as it is to. -/
def totalPlayers (r : Roster) : Nat := r.teamSize.toNat * r.teamCount

/-- The number of tables those players fill; zero where a table has no seats. -/
def numberOfTables (r : Roster) : Nat := r.totalPlayers / r.tableSize.toNat

/-- Every listed player: teams in ascending order, each in the order of its own list. -/
def pool (r : Roster) : List Player :=
  r.teams.entries.flatMap (fun e => e.2.map (fun id => ⟨id, e.1⟩))

end Roster

end TableDraw
