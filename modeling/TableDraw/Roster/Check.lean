import TableDraw.Roster

set_option autoImplicit false

/-!
What a roster has to satisfy before anybody is drawn. The rules are judged in a fixed order and the
first broken one is reported; of several teams that break it the one with the least number is named.
-/

namespace TableDraw

/-- The rule a roster breaks. -/
inductive Violation where
  /-- A team fields nobody, or a table has no seats. -/
  | zeroSize
  /-- The players of a team do not split evenly over whole tables' worth of seats. -/
  | indivisibleTeamSize (teamSize tableSize : Nat)
  /-- A team lists another number of players than it is to field. -/
  | wrongTeamCardinality (team : TeamId) (expected actual : Nat)
  /-- A team's number is below one. -/
  | nonPositiveTeamId (team : TeamId)
  deriving DecidableEq, Repr

namespace Violation

/-- The wording of a violation. -/
def message : Violation → String
  | zeroSize => "team size and table size must be positive"
  | indivisibleTeamSize teamSize tableSize =>
      "team size " ++ toString teamSize ++ " is not divisible by table size " ++ toString tableSize
  | wrongTeamCardinality team expected actual =>
      "team " ++ toString team ++ " has " ++ toString actual ++ " players, expected "
        ++ toString expected
  | nonPositiveTeamId team => "team id " ++ toString team ++ " must be >= 1"

end Violation

namespace Roster

/-- The first team, in ascending order, that lists another number of players than `teamSize`. -/
def misfieldedTeam? (r : Roster) : Option (TeamId × List PlayerId) :=
  r.teams.entries.find? (fun e => e.2.length != r.teamSize.toNat)

/-- The least team number, if it is below one. -/
def nonPositiveTeam? (r : Roster) : Option TeamId :=
  r.teams.keys.find? (fun team => decide (team < 1))

/-- Judges a roster: sizes are positive, a team's players are a multiple of a table's seats, every
team lists as many players as it is to field, and every team number is at least one. -/
def check (r : Roster) : Except Violation Unit :=
  if r.teamSize = 0 ∨ r.tableSize = 0 then .error .zeroSize
  else if r.teamSize.toNat % r.tableSize.toNat ≠ 0 then
    .error (.indivisibleTeamSize r.teamSize.toNat r.tableSize.toNat)
  else
    match r.misfieldedTeam? with
    | some (team, players) =>
        .error (.wrongTeamCardinality team r.teamSize.toNat players.length)
    | none =>
        match r.nonPositiveTeam? with
        | some team => .error (.nonPositiveTeamId team)
        | none => .ok ()

end Roster

end TableDraw
