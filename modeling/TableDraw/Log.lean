set_option autoImplicit false

/-!
Log records, their lines, and the filter that decides which of them are written.
-/

namespace TableDraw.Log

/-- How much a record matters. -/
inductive Level where
  | error
  | warn
  | info
  | debug
  | trace
  deriving DecidableEq, Repr

namespace Level

/-- The place of a level, the weightiest first. -/
def rank : Level → Nat
  | error => 1
  | warn => 2
  | info => 3
  | debug => 4
  | trace => 5

/-- The name a line begins with. -/
def name : Level → String
  | error => "ERROR"
  | warn => "WARN"
  | info => "INFO"
  | debug => "DEBUG"
  | trace => "TRACE"

end Level

/-- A record: its level, the part of the program it comes from, its message, and named values. -/
structure Record where
  level : Level
  source : String
  message : String
  fields : List (String × String) := []
  deriving DecidableEq, Repr

namespace Record

/-- One character of a message. Characters that steer a terminal are spelled out. -/
def spellChar (c : Char) : List Char :=
  if c = '\x1b' then ['\\', 'x', '1', 'b']
  else if c = '\x07' then ['\\', 'x', '0', '7']
  else if c = '\x08' then ['\\', 'x', '0', '8']
  else if c = '\x0c' then ['\\', 'x', '0', 'c']
  else if c = '\x7f' then ['\\', 'x', '7', 'f']
  else if 0x80 ≤ c.toNat ∧ c.toNat ≤ 0x9f then
    ['\\', 'u', '\x7b'] ++ Nat.toDigits 16 c.toNat ++ ['\x7d']
  else [c]

/-- A record's named values as they stand in a line. -/
def fieldTexts (r : Record) : List String := r.fields.map (fun f => f.1 ++ "=" ++ f.2)

/-- The line of a record: level, source, message, then the named values. -/
def line (r : Record) : String :=
  let message := String.ofList (r.message.toList.flatMap spellChar)
  " ".intercalate ((r.level.name ++ " " ++ r.source ++ ": " ++ message) :: r.fieldTexts)

end Record

/-- The least weighty level that is written; nothing is written without one. -/
abbrev Filter := Option Level

namespace Filter

/-- Whether a record is written. -/
def admits : Filter → Record → Bool
  | none, _ => false
  | some limit, r => r.level.rank ≤ limit.rank

/-- The filter that a setting asks for: the name of a level in any case, or `off`. An empty setting
silences the log; one that is missing or cannot be read asks for `info`. Settings that give parts of
the program levels of their own are not told apart from those that cannot be read. -/
def ofSetting : Option String → Filter
  | none => some .info
  | some setting =>
      match String.ofList (setting.toList.map Char.toLower) with
      | "" => none
      | "off" => none
      | "error" => some .error
      | "warn" => some .warn
      | "info" => some .info
      | "debug" => some .debug
      | "trace" => some .trace
      | _ => some .info

end Filter

end TableDraw.Log
