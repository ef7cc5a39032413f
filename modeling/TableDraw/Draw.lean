import TableDraw.Duration
import TableDraw.Fill
import TableDraw.Log
import TableDraw.Roster.Check
import TableDraw.Shuffle

set_option autoImplicit false

/-!
The draw: attempts with successive seeds, each of which shuffles the roster's pool and fills the
tables from it, until one seats everybody, the attempts run out or the deadline passes. The deadline
is looked at before every attempt but the first. A draw also tells what happened, event by event.
-/

namespace TableDraw

namespace Draw

/-- How long a draw may go on. -/
structure Limits where
  maxAttempts : UInt32 := 1000
  deadline : Option Duration := none
  deriving DecidableEq, Repr, Inhabited

/-- Why a draw came to nothing. -/
inductive Failure where
  /-- The roster breaks a rule. -/
  | invalidInput (violation : Violation)
  /-- All permitted attempts left players without a seat. -/
  | exhausted (attempts : Nat)
  /-- The deadline had passed when the next attempt was due. -/
  | deadlineExceeded (attempts : Nat) (elapsed : Duration)
  deriving DecidableEq, Repr

namespace Failure

/-- The wording of a failure. -/
def message : Failure → String
  | invalidInput violation => "Invalid input: " ++ violation.message
  | exhausted attempts =>
      "Could not find a valid assignment within " ++ toString attempts ++ " attempts"
  | deadlineExceeded attempts elapsed =>
      "Deadline exceeded after " ++ toString attempts ++ " attempts (" ++ elapsed.text ++ ")"

/-- The wording for those who are not to learn what is wrong with a roster. -/
def publicMessage : Failure → String
  | invalidInput _ => "Invalid input"
  | failure => failure.message

end Failure

/-- A successful draw: the seating, the seed that gave it, and the attempts made up to it. -/
structure Report where
  seating : Seating
  seedUsed : Int64
  attempts : Nat
  deriving DecidableEq, Repr

/-- What happens in a draw. -/
inductive Event where
  /-- An attempt left players without a seat. -/
  | unseated (seed : Int64) (players : Nat)
  /-- An attempt seated everybody. -/
  | seated (players tables : Nat) (seed : Int64) (attempt : Nat)
  /-- The deadline had passed after some attempts. -/
  | deadlinePassed (deadline : Duration) (attempts : Nat)
  /-- The last permitted attempt was made. -/
  | exhausted (attempts : Nat)
  deriving DecidableEq, Repr

namespace Event

/-- The weight of an event. -/
def level : Event → Log.Level
  | unseated .. => .debug
  | seated .. => .info
  | deadlinePassed .. => .warn
  | exhausted .. => .warn

/-- The wording of an event. -/
def message : Event → String
  | unseated seed players =>
      "Seed " ++ toString seed ++ " left " ++ toString players ++ " players unseated, retrying"
  | seated players tables seed attempt =>
      "Seated " ++ toString players ++ " players at " ++ toString tables ++ " tables (seed "
        ++ toString seed ++ ", attempt " ++ toString attempt ++ ")"
  | deadlinePassed deadline attempts =>
      "Table draw deadline of " ++ deadline.text ++ " passed after " ++ toString attempts
        ++ " attempts"
  | exhausted attempts => "No complete table draw within " ++ toString attempts ++ " attempts"

/-- The log record of an event. -/
def record (e : Event) : Log.Record := ⟨e.level, "team_draw::seating::assigner", e.message, []⟩

end Event

/-- The outcome of a draw and its events in order. -/
structure Result where
  outcome : Except Failure Report
  events : List Event

/-- One attempt: shuffle the pool with the seed, then fill the tables. -/
def attempt (r : Roster) (seed : Int64) : Fill.Outcome :=
  fill (shuffle r.pool seed) r.tableSize.toNat r.numberOfTables

/-- Where a draw stands between two attempts: the attempts made, the next seed, and what happened so
far, the latest event first. -/
structure Progress where
  attempts : Nat
  seed : Int64
  past : List Event

namespace Progress

/-- A draw that has yet to begin. -/
def start (seed : Int64) : Progress := ⟨0, seed, []⟩

/-- A draw that ends with a last event. -/
def finish (p : Progress) (outcome : Except Failure Report) (last : Event) : Result :=
  ⟨outcome, (last :: p.past).reverse⟩

/-- The deadline, if one is set, at least one attempt was made and the time elapsed reaches it. -/
def passedDeadline? (p : Progress) (limits : Limits) (elapsed : Duration) : Option Duration :=
  if p.attempts = 0 then none else limits.deadline.filter (fun deadline => deadline ≤ elapsed)

/-- The next attempt of a draw, unless its deadline has passed: the draw's end, or where it stands
then, with the seed that follows. -/
def step (r : Roster) (limits : Limits) (elapsed : Duration) (p : Progress) : Result ⊕ Progress :=
  match p.passedDeadline? limits elapsed with
  | some deadline =>
      .inl (p.finish (.error (.deadlineExceeded p.attempts elapsed))
        (.deadlinePassed deadline p.attempts))
  | none =>
      let outcome := attempt r p.seed
      if outcome.isComplete then
        .inl (p.finish (.ok ⟨outcome.seating, p.seed, p.attempts + 1⟩)
          (.seated r.totalPlayers r.numberOfTables p.seed (p.attempts + 1)))
      else
        .inr ⟨p.attempts + 1, p.seed + 1, .unseated p.seed outcome.leftover.length :: p.past⟩

/-- The end of a draw whose attempts are used up. -/
def exhaust (p : Progress) : Result :=
  p.finish (.error (.exhausted p.attempts)) (.exhausted p.attempts)

end Progress

section Search

variable {m : Type → Type} [Monad m]

/-- Up to `remaining` further attempts, by a clock that has to be asked for the time: `clock k` gives
the time elapsed when attempt `k`, counted from one, is due. -/
def searchWith (r : Roster) (limits : Limits) (clock : Nat → m Duration) :
    Nat → Progress → m Result
  | 0, p => pure p.exhaust
  | remaining + 1, p => do
      match p.step r limits (← clock (p.attempts + 1)) with
      | .inl result => pure result
      | .inr next => searchWith r limits clock remaining next

/-- Draws a roster by a clock that has to be asked for the time. -/
def runWith (r : Roster) (limits : Limits) (seed : Int64) (clock : Nat → m Duration) : m Result :=
  match r.check with
  | .error violation => pure ⟨.error (.invalidInput violation), []⟩
  | .ok () => searchWith r limits clock limits.maxAttempts.toNat (.start seed)

end Search

/-- Up to `remaining` further attempts, by a clock that is known beforehand. -/
def search (r : Roster) (limits : Limits) (clock : Nat → Duration) (remaining : Nat)
    (p : Progress) : Result :=
  Id.run (searchWith r limits (fun k => pure (clock k)) remaining p)

theorem search_zero (r : Roster) (limits : Limits) (clock : Nat → Duration) (p : Progress) :
    search r limits clock 0 p = p.exhaust := rfl

theorem search_succ (r : Roster) (limits : Limits) (clock : Nat → Duration) (remaining : Nat)
    (p : Progress) :
    search r limits clock (remaining + 1) p =
      match p.step r limits (clock (p.attempts + 1)) with
      | .inl result => result
      | .inr next => search r limits clock remaining next := by
  unfold search
  rw [searchWith]
  simp only [Id.run_bind, Id.run_pure]
  split <;> rfl

end Draw

/-- Draws a roster: nothing is attempted if it breaks a rule. -/
def draw (r : Roster) (limits : Draw.Limits) (seed : Int64) (clock : Nat → Duration) :
    Draw.Result :=
  Id.run (Draw.runWith r limits seed (fun k => pure (clock k)))

theorem draw_eq (r : Roster) (limits : Draw.Limits) (seed : Int64) (clock : Nat → Duration) :
    draw r limits seed clock =
      match r.check with
      | .error violation => ⟨.error (.invalidInput violation), []⟩
      | .ok () => Draw.search r limits clock limits.maxAttempts.toNat (.start seed) := by
  unfold draw Draw.runWith
  split <;> rfl

end TableDraw
