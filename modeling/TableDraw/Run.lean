import TableDraw.Directory
import TableDraw.Roster.Json
import TableDraw.Seating.Json
import TableDraw.Settings

set_option autoImplicit false

/-!
Running a draw from its settings: the roster file is read, the roster is drawn, and the outcome
becomes a JSON document that lists either tables or seats.
-/

namespace TableDraw

namespace Run

/-- Why a run came to nothing. -/
inductive Failure where
  /-- The roster file cannot be read. -/
  | unreadable (path : Bytes) (cause : FileError)
  /-- The roster file holds no roster. -/
  | malformed (path : Bytes) (cause : Json.Error)
  /-- The draw failed. -/
  | draw (cause : Draw.Failure)
  deriving DecidableEq, Repr

/-- The wordings of a failure and of its causes, the failure's own first. -/
def Failure.chain : Failure → List String
  | unreadable path cause =>
      ["Failed to read roster " ++ String.ofList (Utf8.decodeLossy path), cause.message]
  | malformed path cause =>
      ["Malformed roster " ++ String.ofList (Utf8.decodeLossy path), cause.message]
  | draw cause => ["Table draw failed: " ++ cause.message]

/-- What a draw's outcome lists. -/
inductive Listing where
  | tables (seating : Seating)
  | seats (records : List SeatRecord)
  deriving DecidableEq, Repr

/-- The outcome of a run: the seed that was asked for, the seed that gave the seating, the attempts
made up to it, and the seating in either form. -/
structure Output where
  seed : Int64
  seedUsed : Int64
  attempts : Nat
  listing : Listing
  deriving DecidableEq, Repr

open Json in
/-- The member of an outcome that holds its seating. -/
def Listing.document : Listing → String × Document
  | tables seating => ("tables", seating.document)
  | seats records => ("seats", .list (records.map SeatRecord.document))

/-- An outcome to be written. -/
def Output.document (o : Output) : Json.Document :=
  .object [("seed", .integer o.seed.toInt), ("seed_used", .integer o.seedUsed.toInt),
    ("attempts", .integer o.attempts), o.listing.document]

/-- A seating in the form that is asked for. -/
def listingOf (records : Bool) (seating : Seating) : Listing :=
  if records then .seats seating.seatRecords else .tables seating

/-- The roster that the content of a file spells. -/
def loadRoster (path : Bytes) : Except FileError Bytes → Except Failure Roster
  | .error cause => .error (.unreadable path cause)
  | .ok content =>
      match Utf8.decode? content with
      | none => .error (.unreadable path .notText)
      | some text =>
          match Roster.parse text with
          | .error cause => .error (.malformed path cause)
          | .ok roster => .ok roster

/-- The text of a deadline, or of there being none. -/
def deadlineText : Option Duration → String
  | none => "None"
  | some deadline => "Some(" ++ deadline.text ++ ")"

/-- The records of a draw that is about to begin. -/
def openingRecords (settings : Settings) (roster : Roster) : List Log.Record :=
  [⟨.info, "td_cli::draw",
    "Drawing " ++ toString roster.teamCount ++ " teams of " ++ toString roster.teamSize
      ++ " onto tables of " ++ toString roster.tableSize ++ " (seed " ++ toString settings.seed
      ++ ")", []⟩,
   ⟨.debug, "td_cli::draw",
    "Trying up to " ++ toString settings.limits.maxAttempts ++ " seeds (deadline "
      ++ deadlineText settings.limits.deadline ++ ")", []⟩]

/-- The record of a draw that succeeded. More than a hundred attempts are worth a warning. -/
def closingRecord (roster : List Char) (seedUsed : Int64) (attempts millis : Nat) : Log.Record where
  level := if 100 < attempts then .warn else .info
  source := "td_cli::logging"
  message := if 100 < attempts then "Draw needed many attempts" else "Draw completed"
  fields := [("roster", Text.Quoted.ofText roster), ("seed_used", toString seedUsed),
    ("attempts", toString attempts), ("duration_ms", toString millis)]

/-- The outcome of a run, and everything it has to log. -/
structure Result where
  outcome : Except Failure Output
  log : List Log.Record

/-- The end of a run whose draw is done; `elapsed` is the time it took. -/
def conclude (settings : Settings) (roster : Roster) (result : Draw.Result) (elapsed : Duration) :
    Result :=
  let log := openingRecords settings roster ++ result.events.map Draw.Event.record
  match result.outcome with
  | .error cause => ⟨.error (.draw cause), log⟩
  | .ok report =>
      let closing := closingRecord (Utf8.decodeLossy settings.roster) report.seedUsed
        report.attempts elapsed.wholeMillis
      ⟨.ok ⟨settings.seed, report.seedUsed, report.attempts,
        listingOf settings.records report.seating⟩, log ++ [closing]⟩

/-- The attempts that a draw made. -/
def attemptsMade : Except Draw.Failure Draw.Report → Nat
  | .ok report => report.attempts
  | .error (.invalidInput _) => 0
  | .error (.exhausted attempts) => attempts
  | .error (.deadlineExceeded attempts _) => attempts

/-- Runs a draw by a clock that has to be started and asked for the time. -/
def runWith {m : Type → Type} [Monad m] (settings : Settings) (content : Except FileError Bytes)
    (start : m (Nat → m Duration)) : m Result :=
  match loadRoster settings.roster content with
  | .error failure => pure ⟨.error failure, []⟩
  | .ok roster => do
      let clock ← start
      let result ← Draw.runWith roster settings.limits settings.seed clock
      return conclude settings roster result (← clock (attemptsMade result.outcome + 1))

end Run

/-- Runs a draw. `content` is what reading the roster file gives, and `clock k` the time elapsed when
attempt `k`, counted from one, is due. -/
def run (settings : Settings) (content : Except FileError Bytes) (clock : Nat → Duration) :
    Run.Result :=
  Id.run (Run.runWith settings content (pure (fun k => pure (clock k))))

theorem run_eq (settings : Settings) (content : Except FileError Bytes) (clock : Nat → Duration) :
    run settings content clock =
      match Run.loadRoster settings.roster content with
      | .error failure => ⟨.error failure, []⟩
      | .ok roster =>
          let result := draw roster settings.limits settings.seed clock
          Run.conclude settings roster result (clock (Run.attemptsMade result.outcome + 1)) := by
  unfold run Run.runWith
  split <;> rfl

end TableDraw
