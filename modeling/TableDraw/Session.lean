import TableDraw.Roster.Json
import TableDraw.Seating.Json
import TableDraw.Settings

set_option autoImplicit false

/-!
A session: a roster that is put together step by step, the limits of a draw, a pool of players, the
latest seating, and the latest seed.
-/

namespace TableDraw

/-- The state of a session. -/
structure Session where
  roster : Roster := .ofSizes 0 0
  limits : Draw.Limits := {}
  pool : List Player := []
  seating : Seating := .empty
  lastSeed : Int64 := 0

namespace Session

/-- A step of a session. -/
inductive Step where
  | newRoster (teamSize tableSize : UInt64)
  | team (team : TeamId) (players : List PlayerId)
  | removeTeam (team : TeamId)
  | teamSize (size : UInt64)
  | tableSize (size : UInt64)
  | check
  | rosterText
  | loadRoster (text : List Char)
  | buildPool
  | shuffle (seed : Int64)
  /-- Fills tables from the pool; sizes that are not given are the roster's. -/
  | fill (tableSize tableCount : Option Nat)
  | maxAttempts (attempts : UInt32)
  | deadline (deadline : Duration)
  | draw (seed : Int64)
  | drawAgain
  | drawNext
  | view
  | table (table : TableId)
  | seatingText
  | loadSeating (text : List Char)

/-- What a step answers. -/
inductive Answer where
  | roster (roster : Roster)
  | removed (players : Option (List PlayerId))
  | checked (verdict : Except Violation Unit)
  | text (text : List Char)
  | malformed (error : Json.Error)
  | players (players : List Player)
  | filled (outcome : Fill.Outcome)
  | limits (limits : Draw.Limits)
  | drawn (outcome : Except Draw.Failure Draw.Report)
  | seating (seating : Seating)
  | table (players : Option (List Player))
  | tableCount (count : Nat)

/-- Replaces the roster and answers the new one. -/
def withRoster (s : Session) (roster : Roster) : Session × Answer :=
  ({ s with roster }, .roster roster)

/-- Replaces the pool and answers the new one. -/
def withPool (s : Session) (pool : List Player) : Session × Answer :=
  ({ s with pool }, .players pool)

/-- Replaces the limits and answers the new ones. -/
def withLimits (s : Session) (limits : Draw.Limits) : Session × Answer :=
  ({ s with limits }, .limits limits)

/-- Draws the roster. The seating and the seed of a success are kept; of a failure, the seed it
began with. -/
def drawFrom (s : Session) (clock : Nat → Duration) (seed : Int64) : Session × Answer :=
  let outcome := (TableDraw.draw s.roster s.limits seed clock).outcome
  let next := match outcome with
    | .ok report => { s with seating := report.seating, lastSeed := report.seedUsed }
    | .error _ => { s with lastSeed := seed }
  (next, .drawn outcome)

/-- Takes a step. -/
def take (s : Session) (clock : Nat → Duration) : Step → Session × Answer
  | .newRoster teamSize tableSize => s.withRoster (.ofSizes teamSize tableSize)
  | .team team players => s.withRoster (s.roster.withTeam team players)
  | .removeTeam team =>
      ({ s with roster := s.roster.withoutTeam team }, .removed (s.roster.teams.get? team))
  | .teamSize size => s.withRoster { s.roster with teamSize := size }
  | .tableSize size => s.withRoster { s.roster with tableSize := size }
  | .check => (s, .checked s.roster.check)
  | .rosterText => (s, .text s.roster.text)
  | .loadRoster text =>
      match Roster.parse text with
      | .ok roster => s.withRoster roster
      | .error error => (s, .malformed error)
  | .buildPool => s.withPool s.roster.pool
  | .shuffle seed => s.withPool (TableDraw.shuffle s.pool seed)
  | .fill tableSize tableCount =>
      let outcome := TableDraw.fill s.pool (tableSize.getD s.roster.tableSize.toNat)
        (tableCount.getD s.roster.numberOfTables)
      ({ s with pool := outcome.leftover, seating := outcome.seating }, .filled outcome)
  | .maxAttempts attempts => s.withLimits { s.limits with maxAttempts := attempts }
  | .deadline deadline => s.withLimits { s.limits with deadline := some deadline }
  | .draw seed => s.drawFrom clock seed
  | .drawAgain => s.drawFrom clock s.lastSeed
  | .drawNext => s.drawFrom clock (s.lastSeed + 1)
  | .view => (s, .seating s.seating)
  | .table table => (s, .table (s.seating.table? table))
  | .seatingText => (s, .text s.seating.text)
  | .loadSeating text =>
      match Seating.parse text with
      | .ok seating => ({ s with seating }, .tableCount seating.size)
      | .error error => (s, .malformed error)

/-- Takes steps one after the other. -/
def takeAll (clock : Nat → Duration) : Session → List Step → List Answer
  | _, [] => []
  | s, step :: rest =>
      let next := s.take clock step
      next.2 :: takeAll clock next.1 rest

end Session

end TableDraw
