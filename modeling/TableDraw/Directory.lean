import TableDraw.Text.Utf8

set_option autoImplicit false

/-!
A directory of files and the resolution of paths in it, for a system that has no files but those in
the directory: whatever lies above it is a directory or is not there.
-/

namespace TableDraw

/-- Why a file's text cannot be had. -/
inductive FileError where
  | notFound
  | notDirectory
  | isDirectory
  | nameTooLong
  /-- The path holds a zero byte. -/
  | invalidName
  /-- The file's bytes spell no text. -/
  | notText
  /-- Any other cause, in the words of the system. -/
  | other (message : String)
  deriving DecidableEq, Repr

/-- The wording of a file error. -/
def FileError.message : FileError → String
  | notFound => "No such file or directory (os error 2)"
  | notDirectory => "Not a directory (os error 20)"
  | isDirectory => "Is a directory (os error 21)"
  | nameTooLong => "File name too long (os error 36)"
  | invalidName => "file name contained an unexpected NUL byte"
  | notText => "stream did not contain valid UTF-8"
  | other message => message

/-- What a directory holds under a name: a file with its content, or a directory. -/
inductive Entry where
  | file (content : Bytes)
  | folder
  deriving DecidableEq, Repr

/-- A directory: its entries, each at its chain of names. -/
structure Directory where
  entries : List (List Bytes × Entry)
  deriving DecidableEq, Repr, Inhabited

namespace Directory

/-- The names of a path, with an empty one wherever two slashes meet or one stands at an end. -/
def splitPath : Bytes → List Bytes
  | [] => [[]]
  | b :: rest =>
      if b = 47 then [] :: splitPath rest
      else
        match splitPath rest with
        | [] => [[b]]
        | name :: more => (b :: name) :: more

/-- The entry at a chain of names. The directory itself and every chain that leads to an entry are
directories. -/
def entry? (d : Directory) (names : List Bytes) : Option Entry :=
  match d.entries.lookup names with
  | some entry => some entry
  | none =>
      if names = [] ∨ d.entries.any (fun e => names.isPrefixOf e.1) then some .folder else none

/-- Where a walk along a path stands. -/
inductive Place where
  | inside (names : List Bytes)
  /-- In a directory above. -/
  | outside
  deriving DecidableEq, Repr

/-- One step from a place that has to be a directory. -/
def walk (d : Directory) (place : Place) (name : Bytes) : Except FileError Place :=
  match place with
  | .outside =>
      if name = [] ∨ name = [46] ∨ name = [46, 46] then .ok .outside
      else if 255 < name.length then .error .nameTooLong
      else .error .notFound
  | .inside names =>
      match d.entry? names with
      | none => .error .notFound
      | some (.file _) => .error .notDirectory
      | some .folder =>
          if name = [] ∨ name = [46] then .ok (.inside names)
          else if name = [46, 46] then
            .ok (if names = [] then .outside else .inside names.dropLast)
          else if 255 < name.length then .error .nameTooLong
          else .ok (.inside (names ++ [name]))

/-- The content of the file at a path. -/
def read (d : Directory) (path : Bytes) : Except FileError Bytes :=
  if path.contains 0 then .error .invalidName
  else if path = [] then .error .notFound
  else if 4096 ≤ path.length then .error .nameTooLong
  else
    let start : Place := if path.head? = some 47 then .outside else .inside []
    match (splitPath path).foldlM d.walk start with
    | .error e => .error e
    | .ok .outside => .error .isDirectory
    | .ok (.inside names) =>
        match d.entry? names with
        | none => .error .notFound
        | some .folder => .error .isDirectory
        | some (.file content) => .ok content

end Directory

end TableDraw
