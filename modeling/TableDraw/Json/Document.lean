set_option autoImplicit false

/-!
JSON documents of integers, lists and objects, and their two layouts: compact, without any blank,
and indented, with one item or member to a line.
-/

namespace TableDraw.Json

/-- A value to be written. Its keys are written as they are, so they hold no character that a JSON
string would have to escape. -/
inductive Document where
  | integer (n : Int)
  | list (items : List Document)
  | object (members : List (String × Document))

namespace Document

/-- The digits of an integer, after a minus sign if it is negative. -/
def integerText : Int → List Char
  | .ofNat n => Nat.toDigits 10 n
  | .negSucc n => '-' :: Nat.toDigits 10 (n + 1)

/-- A key in quotes. -/
def keyText (key : String) : List Char := '"' :: key.toList ++ ['"']

mutual

/-- A document without blanks. -/
def compact : Document → List Char
  | integer n => integerText n
  | list items => '[' :: compactItems items ++ [']']
  | object members => '\x7b' :: compactMembers members ++ ['\x7d']

/-- Items with commas between them. -/
def compactItems : List Document → List Char
  | [] => []
  | item :: rest => compact item ++ compactMoreItems rest

/-- Items, each behind a comma. -/
def compactMoreItems : List Document → List Char
  | [] => []
  | item :: rest => ',' :: compact item ++ compactMoreItems rest

/-- Members with commas between them. -/
def compactMembers : List (String × Document) → List Char
  | [] => []
  | (key, value) :: rest => keyText key ++ ':' :: compact value ++ compactMoreMembers rest

/-- Members, each behind a comma. -/
def compactMoreMembers : List (String × Document) → List Char
  | [] => []
  | (key, value) :: rest => ',' :: keyText key ++ ':' :: compact value ++ compactMoreMembers rest

end

/-- The beginning of a line at some depth: two blanks for each container around it. -/
def newline (depth : Nat) : List Char := '\n' :: List.replicate (2 * depth) ' '

mutual

/-- A document at some depth, with lines for its items and members. -/
def indented (depth : Nat) : Document → List Char
  | integer n => integerText n
  | list [] => ['[', ']']
  | list (item :: rest) =>
      '[' :: newline (depth + 1) ++ indented (depth + 1) item
        ++ indentedItems (depth + 1) rest ++ newline depth ++ [']']
  | object [] => ['\x7b', '\x7d']
  | object ((key, value) :: rest) =>
      '\x7b' :: newline (depth + 1) ++ keyText key ++ ':' :: ' ' :: indented (depth + 1) value
        ++ indentedMembers (depth + 1) rest ++ newline depth ++ ['\x7d']

/-- Items, each behind a comma and on a line of its own. -/
def indentedItems (depth : Nat) : List Document → List Char
  | [] => []
  | item :: rest => ',' :: newline depth ++ indented depth item ++ indentedItems depth rest

/-- Members, each behind a comma and on a line of its own. -/
def indentedMembers (depth : Nat) : List (String × Document) → List Char
  | [] => []
  | (key, value) :: rest =>
      ',' :: newline depth ++ keyText key ++ ':' :: ' ' :: indented depth value
        ++ indentedMembers depth rest

end

end Document

end TableDraw.Json
