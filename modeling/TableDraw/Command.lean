import TableDraw.Arguments
import TableDraw.EnvFile
import TableDraw.Files
import TableDraw.Run

set_option autoImplicit false

/-!
The command: from arguments, environment and files to what is printed and the exit code.
-/

namespace TableDraw.Command

/-- What a command leaves behind: its exit code, the text on its output, the log records that are
written, and the error message that follows them. -/
structure Outcome where
  exit : Nat
  output : String
  log : List Log.Record
  message : String
  deriving DecidableEq, Repr

/-- The help text, line by line. -/
def helpLines : List String := [
  "Seat team players at tables without putting teammates together",
  "",
  "USAGE:",
  "  td_cli [OPTIONS]",
  "",
  "OPTIONS:",
  "  --roster        FILE    JSON roster (teams, team_size, table_size)  "
    ++ "[default: env SEATING_ROSTER]",
  "  --seed          N       Seed of the first attempt                   "
    ++ "[default: env SEATING_SEED or 1]",
  "  --max-attempts  N       Seeds to try before giving up               "
    ++ "[default: env SEATING_MAX_ATTEMPTS or 1000]",
  "  --deadline-ms   N       Give up after N milliseconds                "
    ++ "[default: env SEATING_DEADLINE_MS or none]",
  "",
  "FLAGS:",
  "  --records               Print one record per seat instead of the table map",
  "  -h, --help              Print help information",
  "",
  "ENVIRONMENT:",
  "  RUST_LOG                Log filter (logs go to stderr)",
  "  (A .env file in the working directory is loaded if present)"]

/-- The help text. -/
def help : String := "\n".intercalate helpLines ++ "\n"

/-- A text with four blanks in front of each of its lines. -/
def indent (text : String) : String :=
  "\n".intercalate (text.toList.splitOn '\n' |>.map (fun line => "    " ++ String.ofList line))

/-- The message of a failure: its own wording and, below it, those of its causes. -/
def messageOf : List String → String
  | [] => ""
  | [own] => "Error: " ++ own ++ "\n"
  | own :: causes =>
      "Error: " ++ own ++ "\n\nCaused by:\n" ++ "\n".intercalate (causes.map indent) ++ "\n"

/-- The outcome of a command that fails before it logs anything. -/
def failWith (message : String) : Outcome := ⟨1, "", [], messageOf [message]⟩

/-- The outcome of a command that breaks down over its environment, before it has looked at its
arguments. The place in the program that the message begins with is left out. -/
def breakDown (refusal : Environment.Refusal) : Outcome := ⟨101, "", [], refusal.message ++ "\n"⟩

/-- What is to be done after arguments and environment are read. -/
inductive Plan where
  /-- Nothing more. -/
  | finished (outcome : Outcome)
  /-- A draw, the log of which is filtered. -/
  | draw (filter : Log.Filter) (settings : Settings)

/-- Reads the arguments and the environment. -/
def plan (arguments : List Bytes) (env : Environment) : Plan :=
  if Arguments.asksForHelp arguments then .finished ⟨0, help, [], ""⟩
  else
    match Arguments.parse arguments with
    | .error defect => .finished (failWith defect.message)
    | .ok overrides =>
        match Settings.resolve env overrides with
        | .error defect => .finished (failWith defect.message)
        | .ok settings =>
            .draw (.ofSetting ((env.text? "RUST_LOG").map String.ofList)) settings

/-- The record of a run that failed. -/
def failureRecord (failure : Run.Failure) : Log.Record :=
  ⟨.error, "td_cli", ": ".intercalate failure.chain, []⟩

/-- The outcome of a command whose draw was run. -/
def conclude (filter : Log.Filter) (result : Run.Result) : Outcome :=
  match result.outcome with
  | .ok output =>
      ⟨0, String.ofList (output.document.indented 0 ++ ['\n']), result.log.filter filter.admits, ""⟩
  | .error failure =>
      ⟨1, "", (result.log ++ [failureRecord failure]).filter filter.admits,
        messageOf failure.chain⟩

section

variable {m : Type → Type} [Monad m]

/-- The environment with the variables of the nearest file of them, if there is one. -/
def surroundings (env : Environment) (files : Files m) :
    m (Except Environment.Refusal Environment) := do
  match ← files.nearest? (Utf8.encode ".env".toList) with
  | some content => return EnvFile.load env content
  | none => return .ok env

/-- Runs the command by files and a clock that have to be asked. -/
def runWith (arguments : List Bytes) (env : Environment) (files : Files m)
    (start : m (Nat → m Duration)) : m Outcome := do
  match ← surroundings env files with
  | .error refusal => return breakDown refusal
  | .ok env =>
      match plan arguments env with
      | .finished outcome => return outcome
      | .draw filter settings =>
          return conclude filter (← Run.runWith settings (← files.read settings.roster) start)

end

end TableDraw.Command

namespace TableDraw

/-- Runs the command. `clock k` is the time elapsed when attempt `k`, counted from one, is due. -/
def command (arguments : List Bytes) (env : Environment) (files : Files Id)
    (clock : Nat → Duration) : Command.Outcome :=
  Id.run (Command.runWith arguments env files (pure (fun k => pure (clock k))))

theorem command_eq (arguments : List Bytes) (env : Environment) (files : Files Id)
    (clock : Nat → Duration) :
    command arguments env files clock =
      match Id.run (Command.surroundings env files) with
      | .error refusal => Command.breakDown refusal
      | .ok env =>
          match Command.plan arguments env with
          | .finished outcome => outcome
          | .draw filter settings =>
              Command.conclude filter
                (run settings (Id.run (files.read settings.roster)) clock) := by
  unfold command Command.runWith
  rw [Id.run_bind]
  split
  · rfl
  · split <;> rfl

end TableDraw
