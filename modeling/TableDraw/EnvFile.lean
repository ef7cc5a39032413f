import TableDraw.Environment
import TableDraw.Text.Alphanumeric
import TableDraw.Text.Blank

set_option autoImplicit false

/-!
Files of environment variables, one `name=value` to a line. A value may be quoted, also over several
lines, may escape characters with a backslash, and may name variables whose values are put in. What
follows a `#` behind white space is a comment. The first line that is malformed ends the file.
-/

namespace TableDraw.EnvFile

/-- How a file's text stands between quotes and comments. -/
inductive Quoting where
  | plain
  /-- Behind white space, where a comment may begin. -/
  | spaced
  /-- Behind a backslash. -/
  | escaped
  /-- Between double quotes. -/
  | weak
  | weakEscaped
  /-- Between single quotes. -/
  | strong
  | strongEscaped
  deriving DecidableEq, Repr

namespace Quoting

/-- How the text stands behind a character that needs no look at what came before it. -/
def opened (c : Char) : Quoting :=
  if c = '\\' then escaped
  else if c = '"' then weak
  else if c = '\'' then strong
  else plain

/-- How the text stands behind a further character. -/
def next : Quoting → Char → Quoting
  | plain, c => if Text.isBlank c ∧ c ≠ '\n' ∧ c ≠ '\r' then spaced else opened c
  | spaced, c => opened c
  | escaped, _ => plain
  | weak, c => if c = '\\' then weakEscaped else if c = '"' then plain else weak
  | weakEscaped, _ => weak
  | strong, c => if c = '\\' then strongEscaped else if c = '\'' then plain else strong
  | strongEscaped, _ => strong

end Quoting

/-- A line's text up to a comment, and how the text stands behind it; `none` behind a comment. -/
def scan (quoting : Quoting) : List Char → List Char × Option Quoting
  | [] => ([], some quoting)
  | c :: rest =>
      if quoting = .spaced ∧ c = '#' then ([], none)
      else
        let more := scan (quoting.next c) rest
        (c :: more.1, more.2)

/-- The lines of a file, each with its end. -/
def splitLines : Bytes → List Bytes
  | [] => []
  | b :: rest =>
      if b = 10 then [b] :: splitLines rest
      else
        match splitLines rest with
        | [] => [[b]]
        | line :: more => (b :: line) :: more

/-- Joins lines as long as quotes are open at a line's end. A line is `none` where the file breaks
off inside quotes or its bytes spell no text; nothing follows it. -/
def joinLines (begun : List Char) (quoting : Quoting) : List Bytes → List (Option (List Char))
  | [] => if quoting = .plain then [] else [none]
  | bytes :: more =>
      match Utf8.decode? bytes with
      | none => [none]
      | some line =>
          if (Text.trimStart (begun ++ line)).head? = some '#' then joinLines [] .plain more
          else
            match scan quoting line with
            | (kept, none) => some (begun ++ kept) :: joinLines [] .plain more
            | (_, some .plain) => some (begun ++ line) :: joinLines [] .plain more
            | (_, some open') => joinLines (begun ++ line) open' more

/-- How the characters of a value are meant. -/
inductive Mode where
  | plain
  /-- Behind a backslash. -/
  | escaped
  /-- Between single quotes. -/
  | strong
  /-- In a variable's name, with or without braces around it; the latest character comes first. -/
  | name (braced : Bool) (letters : List Char)
  /-- Behind the value. -/
  | ended
  deriving DecidableEq, Repr

/-- The text that is put in for a name, the letters of which come in reverse. -/
def substitute (env : Environment) (letters : List Char) : List Char :=
  ((env.reference? letters.reverse).bind Utf8.decode?).getD []

/-- Whether a character stands for itself behind a backslash. -/
def isEscapable (c : Char) : Bool := c ∈ ['\\', '\'', '"', '$', ' ']

/-- The value that a text spells; `weak` says whether double quotes are open. -/
def readValue (env : Environment) (weak : Bool) : Mode → List Char → Option (List Char)
  | .name braced letters, [] => if braced ∨ weak then none else some (substitute env letters)
  | mode, [] => if mode = .strong ∨ weak then none else some []
  | .ended, c :: rest =>
      if c = ' ' ∨ c = '\t' then readValue env weak .ended rest
      else if c = '#' then some []
      else none
  | .escaped, c :: rest =>
      if isEscapable c then (readValue env weak .plain rest).map (c :: ·)
      else if c = 'n' then (readValue env weak .plain rest).map ('\n' :: ·)
      else none
  | .strong, c :: rest =>
      if c = '\'' then readValue env weak .plain rest
      else (readValue env weak .strong rest).map (c :: ·)
  | .name braced letters, c :: rest =>
      if Text.isAlphanumeric c then readValue env weak (.name braced (c :: letters)) rest
      else if braced then
        if c = '\x7d' then (readValue env weak .plain rest).map (substitute env letters ++ ·)
        else readValue env weak (.name true (c :: letters)) rest
      else if c = '\x7b' ∧ letters = [] then readValue env weak (.name true []) rest
      else if c = '$' then
        (readValue env weak (.name false []) rest).map (substitute env letters ++ ·)
      else (readValue env weak .plain rest).map (fun more => substitute env letters ++ c :: more)
  | .plain, c :: rest =>
      if c = '$' then readValue env weak (.name false []) rest
      else if c = '\\' then readValue env weak .escaped rest
      else if c = '"' then readValue env (!weak) .plain rest
      else if weak then (readValue env weak .plain rest).map (c :: ·)
      else if c = '\'' then readValue env weak .strong rest
      else if c = ' ' ∨ c = '\t' then readValue env weak .ended rest
      else (readValue env weak .plain rest).map (c :: ·)

/-- What a line is. -/
inductive Line where
  /-- Nothing but white space or a comment. -/
  | empty
  | assignment (name value : List Char)
  | malformed
  deriving DecidableEq, Repr

/-- Takes a name: a letter or underscore, then letters, digits, underscores and points. -/
def takeName (s : List Char) : Option (List Char × List Char) :=
  match s with
  | [] => none
  | c :: _ =>
      let isPart (c : Char) : Bool := c.isAlphanum ∨ c = '_' ∨ c = '.'
      if c.isAlpha ∨ c = '_' then some (s.takeWhile isPart, s.dropWhile isPart) else none

/-- Takes a name and the sign behind it. -/
def takeAssigned (s : List Char) : Option (List Char × List Char) :=
  match takeName s with
  | none => none
  | some (name, rest) =>
      match Text.trimStart rest with
      | '=' :: value => some (name, value)
      | _ => none

/-- Takes a line's name and the sign behind it. The word `export` may stand in front. -/
def takeTarget (s : List Char) : Option (List Char × List Char) :=
  match takeName s with
  | none => none
  | some (name, rest) =>
      match Text.trimStart rest with
      | '=' :: value => some (name, value)
      | rest => if name = ['e', 'x', 'p', 'o', 'r', 't'] then takeAssigned rest else none

/-- Whether nothing but a comment is left. -/
def isOver (s : List Char) : Bool := s.isEmpty || s.head? == some '#'

/-- Reads a line. -/
def readLine (env : Environment) (line : List Char) : Line :=
  let text := Text.trimStart (Text.trimEnd line)
  if isOver text then .empty
  else
    match takeTarget text with
    | none => .malformed
    | some (name, rest) =>
        let value := Text.trimStart rest
        if isOver value then .assignment name []
        else
          match readValue env false .plain value with
          | none => .malformed
          | some value => .assignment name value

/-- Sets the variables that lines assign and that have no text yet, up to the first malformed
line. A line sees the variables that earlier ones set. -/
def apply (env : Environment) : List (Option (List Char)) → Except Environment.Refusal Environment
  | [] => .ok env
  | none :: _ => .ok env
  | some line :: more =>
      match readLine env line with
      | .empty => apply env more
      | .assignment name value =>
          match env.setDefault (String.ofList name) value with
          | .error refusal => .error refusal
          | .ok env => apply env more
      | .malformed => .ok env

/-- A file's bytes without a byte order mark in front. -/
def withoutMark : Bytes → Bytes
  | 0xef :: 0xbb :: 0xbf :: rest => rest
  | bytes => bytes

/-- The environment with the variables of a file. -/
def load (env : Environment) (content : Bytes) : Except Environment.Refusal Environment :=
  apply env (joinLines [] .plain (splitLines (withoutMark content)))

end TableDraw.EnvFile
