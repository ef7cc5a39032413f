import TableDraw.Settings
import TableDraw.Text.Quoted

set_option autoImplicit false

/-!
Command-line arguments. Options are looked up one after the other; each takes its first occurrence
and the argument behind it, whatever that is, and leaves the others for those that follow. In the
end nothing may be left.
-/

namespace TableDraw.Arguments

/-- What is wrong with a list of arguments. -/
inductive Defect where
  /-- An option stands last. -/
  | missingValue (option : String)
  /-- An option's value spells no text. -/
  | notText
  /-- An option's value is no number of the right range. -/
  | unreadable (value : List Char) (cause : Numeral.Defect)
  /-- Arguments that nothing asked for. -/
  | unexpected (arguments : List Bytes)
  deriving DecidableEq, Repr

/-- The wording of a defect. -/
def Defect.message : Defect → String
  | missingValue option => "the '" ++ option ++ "' option doesn't have an associated value"
  | notText => "argument is not a UTF-8 string"
  | unreadable value cause =>
      "failed to parse '" ++ String.ofList value ++ "': " ++ cause.message
  | unexpected arguments =>
      "Unexpected arguments: [" ++ ", ".intercalate (arguments.map Text.Quoted.ofBytes) ++ "]"

/-- Whether an argument spells a name. -/
def spells (name : String) (argument : Bytes) : Bool :=
  Utf8.decode? argument == some name.toList

/-- What a look-up of an option finds. -/
inductive Lookup where
  | absent
  /-- The option, with nothing behind it. -/
  | bare
  /-- The option's value and the arguments without the two. -/
  | found (value : Bytes) (others : List Bytes)
  deriving DecidableEq, Repr

/-- Looks for the first occurrence of an option. -/
def lookup (name : String) : List Bytes → Lookup
  | [] => .absent
  | argument :: rest =>
      if spells name argument then
        match rest with
        | [] => .bare
        | value :: others => .found value others
      else
        match lookup name rest with
        | .found value others => .found value (argument :: others)
        | other => other

/-- Takes an option whose value can be read. -/
def takeOption {α : Type} (name : String) (read : List Char → Except Numeral.Defect α)
    (arguments : List Bytes) : Except Defect (Option α × List Bytes) :=
  match lookup name arguments with
  | .absent => .ok (none, arguments)
  | .bare => .error (.missingValue name)
  | .found value others =>
      match Utf8.decode? value with
      | none => .error .notText
      | some text =>
          match read text with
          | .error cause => .error (.unreadable text cause)
          | .ok a => .ok (some a, others)

/-- Takes the first occurrence of a flag. -/
def takeFlag (name : String) (arguments : List Bytes) : Bool × List Bytes :=
  (arguments.any (spells name), arguments.eraseP (spells name))

/-- Whether help is asked for anywhere. -/
def asksForHelp (arguments : List Bytes) : Bool :=
  arguments.any (fun argument => spells "-h" argument || spells "--help" argument)

/-- Reads the options of a draw. -/
def parse (arguments : List Bytes) : Except Defect Overrides := do
  let (roster, arguments) ← takeOption "--roster" (fun text => .ok (Utf8.encode text)) arguments
  let (seed, arguments) ← takeOption "--seed" Numeral.readInt64 arguments
  let (maxAttempts, arguments) ← takeOption "--max-attempts" Numeral.readUInt32 arguments
  let (deadlineMillis, arguments) ← takeOption "--deadline-ms" Numeral.readUInt64 arguments
  let (records, arguments) := takeFlag "--records" arguments
  if arguments.isEmpty then return ⟨roster, seed, maxAttempts, deadlineMillis, records⟩
  else throw (.unexpected arguments)

end TableDraw.Arguments
