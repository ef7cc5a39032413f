import TableDraw.Draw
import TableDraw.Environment
import TableDraw.Text.Numeral

set_option autoImplicit false

/-!
The settings of a draw. Each comes from the command line, else from an environment variable, else
it has a default; only the roster has none. A variable that does not spell a number of the right
range counts as unset.
-/

namespace TableDraw

/-- What a draw is run with. -/
structure Settings where
  /-- The path of the roster file. -/
  roster : Bytes
  seed : Int64
  limits : Draw.Limits
  /-- Whether the outcome lists seats in place of tables. -/
  records : Bool
  deriving DecidableEq, Repr

/-- What the command line says. -/
structure Overrides where
  roster : Option Bytes := none
  seed : Option Int64 := none
  maxAttempts : Option UInt32 := none
  deadlineMillis : Option UInt64 := none
  records : Bool := false
  deriving DecidableEq, Repr, Inhabited

namespace Settings

/-- Why there are no settings to run a draw with. -/
inductive Defect where
  | missingRoster
  | noAttempts
  deriving DecidableEq, Repr

/-- The wording of a defect. -/
def Defect.message : Defect → String
  | missingRoster =>
      "Missing required environment variable: SEATING_ROSTER\n"
        ++ "Hint: Pass --roster FILE or set SEATING_ROSTER"
  | noAttempts => "Invalid configuration for SEATING_MAX_ATTEMPTS: Must be greater than 0"

/-- The number that a variable spells. -/
def number? {α : Type} (env : Environment) (name : String)
    (read : List Char → Except Numeral.Defect α) : Option α :=
  (env.text? name).bind (fun text => (read text).toOption)

/-- The limits that the environment sets. -/
def limitsOf (env : Environment) : Draw.Limits where
  maxAttempts := (number? env "SEATING_MAX_ATTEMPTS" Numeral.readUInt32).getD 1000
  deadline := (number? env "SEATING_DEADLINE_MS" Numeral.readUInt64).map
    (fun millis => .ofMillis millis.toNat)

/-- Judges limits: they have to permit an attempt. -/
def checkLimits (limits : Draw.Limits) : Except Defect Unit :=
  if limits.maxAttempts = 0 then .error .noAttempts else .ok ()

/-- The limits that the command line sets over others. -/
def overrideLimits (limits : Draw.Limits) (given : Overrides) : Draw.Limits where
  maxAttempts := given.maxAttempts.getD limits.maxAttempts
  deadline := (given.deadlineMillis.map (fun millis => .ofMillis millis.toNat)).or limits.deadline

/-- The settings of a command line and an environment. A missing roster is reported first. -/
def resolve (env : Environment) (given : Overrides) : Except Defect Settings :=
  match given.roster.or (env.get? "SEATING_ROSTER") with
  | none => .error .missingRoster
  | some roster =>
      let seed := given.seed.getD ((number? env "SEATING_SEED" Numeral.readInt64).getD 1)
      let limits := overrideLimits (limitsOf env) given
      match checkLimits limits with
      | .error defect => .error defect
      | .ok () => .ok ⟨roster, seed, limits, given.records⟩

end Settings

end TableDraw
