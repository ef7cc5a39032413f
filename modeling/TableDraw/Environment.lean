import TableDraw.Text.Quoted

set_option autoImplicit false

/-!
Environment variables. A value is a string of bytes; one that spells no text counts as unset for
those who want text.
-/

namespace TableDraw

/-- Named values. Of several values of one name the first counts. -/
structure Environment where
  assignments : List (String × Bytes)
  deriving DecidableEq, Repr, Inhabited

namespace Environment

/-- The name and value of an assignment `name=value`. A name has at least one byte. -/
def assignment? : Bytes → Option (String × Bytes)
  | [] => none
  | b :: rest =>
      match rest.dropWhile (· != 61) with
      | [] => none
      | _ :: value =>
          (Utf8.decode? (b :: rest.takeWhile (· != 61))).map
            (fun name => (String.ofList name, value))

/-- The environment of a block of assignments, each of which ends with a zero byte. -/
def ofBlock (block : Bytes) : Environment := ⟨(block.splitOn 0).filterMap assignment?⟩

/-- The value of a variable, if it is set. -/
def get? (env : Environment) (name : String) : Option Bytes := env.assignments.lookup name

/-- The text of a variable, if it is set and spells one. -/
def text? (env : Environment) (name : String) : Option (List Char) :=
  (env.get? name).bind Utf8.decode?

/-- What a reference to a variable stands for. A reference `name=start` stands for what follows
`start=` in a value that begins so. -/
def reference? (env : Environment) (reference : List Char) : Option Bytes :=
  match reference.span (· != '=') with
  | (name, []) => env.get? (String.ofList name)
  | (name, _ :: start) =>
      let begun := Utf8.encode start ++ [61]
      (env.get? (String.ofList name)).bind
        (fun value => if begun.isPrefixOf value then some (value.drop begun.length) else none)

/-- The environment in which a variable has a value, whatever it was before. -/
def set (env : Environment) (name : String) (value : Bytes) : Environment :=
  ⟨(name, value) :: env.assignments⟩

/-- An assignment that a system turns down, since no value may hold a zero byte. -/
structure Refusal where
  name : String
  text : List Char
  deriving DecidableEq, Repr

/-- The wording of a refusal. -/
def Refusal.message (r : Refusal) : String :=
  "failed to set environment variable `" ++ Text.Quoted.ofText r.name.toList ++ "` to `"
    ++ Text.Quoted.ofText r.text ++ "`: file name contained an unexpected NUL byte"

/-- The environment with a text for a variable that had none. -/
def setDefault (env : Environment) (name : String) (text : List Char) :
    Except Refusal Environment :=
  if (env.text? name).isSome then .ok env
  else if '\x00' ∈ text then .error ⟨name, text⟩
  else .ok (env.set name (Utf8.encode text))

end Environment

end TableDraw
