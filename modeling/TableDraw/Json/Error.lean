set_option autoImplicit false

/-!
What can be wrong with a JSON text, or with the values in it for those who read them.
-/

namespace TableDraw.Json

/-- What a text breaks off in. -/
inductive Unfinished where
  | value
  | list
  | object
  | string
  deriving DecidableEq, Repr

/-- A value that stands where another kind of value belongs. -/
inductive Found where
  | null
  | boolean (b : Bool)
  | integer (n : Int)
  /-- A number that is no integer in 64 bits, by its text. -/
  | floating (text : String)
  /-- A string, by its text in quotes. -/
  | string (quoted : String)
  | sequence
  | map
  deriving DecidableEq, Repr

/-- The kind of value that belongs at a place. -/
inductive Expected where
  /-- A signed 64-bit integer. -/
  | signed
  /-- An unsigned 64-bit integer. -/
  | unsigned
  | map
  | sequence
  /-- A record of some name. -/
  | record (name : String)
  deriving DecidableEq, Repr

/-- The first thing wrong with a text. -/
inductive Error where
  | endOfText (inside : Unfinished)
  | expectedValue
  | expectedWord
  | expectedColon
  | expectedListSeparator
  | expectedObjectSeparator
  | trailingComma
  | trailingCharacters
  | keyNotString
  | keyNotNumber
  | expectedQuote
  | invalidNumber
  | numberOutOfRange
  | invalidEscape
  | loneSurrogate
  | unfinishedSurrogatePair
  | controlCharacter
  | wrongType (found : Found) (expected : Expected)
  | wrongValue (n : Int) (expected : Expected)
  | wrongLength (length : Nat) (record : String) (fields : Nat)
  | missingField (name : String)
  | duplicateField (name : String)
  deriving DecidableEq, Repr

/-- The three kinds of errors. -/
inductive Category where
  /-- The text is no JSON text, whatever follows. -/
  | malformed
  /-- The text ends too early. -/
  | endOfText
  /-- The text is a JSON text of another value than is wanted. -/
  | data
  deriving DecidableEq, Repr

namespace Unfinished

/-- The wording of an unfinished part. -/
def message : Unfinished → String
  | value => "a value"
  | list => "a list"
  | object => "an object"
  | string => "a string"

end Unfinished

namespace Found

/-- The wording of what was found. -/
def message : Found → String
  | null => "null"
  | boolean b => "boolean `" ++ (if b then "true" else "false") ++ "`"
  | integer n => "integer `" ++ toString n ++ "`"
  | floating text => "floating point `" ++ text ++ "`"
  | string quoted => "string " ++ quoted
  | sequence => "sequence"
  | map => "map"

end Found

namespace Expected

/-- The wording of what belongs at the place. -/
def message : Expected → String
  | signed => "i64"
  | unsigned => "usize"
  | map => "a map"
  | sequence => "a sequence"
  | record name => "struct " ++ name

end Expected

namespace Error

/-- The kind of an error. -/
def category : Error → Category
  | endOfText _ => .endOfText
  | wrongType .. | wrongValue .. | wrongLength .. | missingField _ | duplicateField _ => .data
  | _ => .malformed

/-- The wording of an error. -/
def message : Error → String
  | endOfText inside => "EOF while parsing " ++ inside.message
  | expectedValue => "expected value"
  | expectedWord => "expected ident"
  | expectedColon => "expected `:`"
  | expectedListSeparator => "expected `,` or `]`"
  | expectedObjectSeparator => "expected `,` or `\x7d`"
  | trailingComma => "trailing comma"
  | trailingCharacters => "trailing characters"
  | keyNotString => "key must be a string"
  | keyNotNumber => "invalid value: expected key to be a number in quotes"
  | expectedQuote => "expected `\"`"
  | invalidNumber => "invalid number"
  | numberOutOfRange => "number out of range"
  | invalidEscape => "invalid escape"
  | loneSurrogate => "lone leading surrogate in hex escape"
  | unfinishedSurrogatePair => "unexpected end of hex escape"
  | controlCharacter => "control character (\\u0000-\\u001F) found while parsing a string"
  | wrongType found expected =>
      "invalid type: " ++ found.message ++ ", expected " ++ expected.message
  | wrongValue n expected =>
      "invalid value: integer `" ++ toString n ++ "`, expected " ++ expected.message
  | wrongLength length record fields =>
      "invalid length " ++ toString length ++ ", expected struct " ++ record ++ " with "
        ++ toString fields ++ " elements"
  | missingField name => "missing field `" ++ name ++ "`"
  | duplicateField name => "duplicate field `" ++ name ++ "`"

end Error

end TableDraw.Json
