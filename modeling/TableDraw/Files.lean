import TableDraw.Directory

set_option autoImplicit false

/-!
The files of a system, as a program meets them that runs in a directory of it. How the system finds
a file at a path is its own affair, as is what looking for one takes: an answer comes in a monad.
-/

namespace TableDraw

/-- What a program can learn about files. -/
structure Files (m : Type → Type) where
  /-- What reading the file at a path gives. -/
  read : Bytes → m (Except FileError Bytes)
  /-- How many directories there are above the working directory. -/
  levels : m Nat

namespace Files

variable {m : Type → Type} [Monad m]

/-- The path to a name in the directory that is some levels above the working directory. -/
def pathAbove (name : Bytes) : Nat → Bytes
  | 0 => name
  | levels + 1 => [46, 46, 47] ++ pathAbove name levels

/-- The content of the file at the first of some paths at which there is one. One that is there but
cannot be read ends the search. -/
def first? (files : Files m) : List Bytes → m (Option Bytes)
  | [] => pure none
  | path :: more => do
      match ← files.read path with
      | .ok content => pure (some content)
      | .error .notFound => first? files more
      | .error .isDirectory => first? files more
      | .error _ => pure none

/-- The content of the file of a name in the working directory or, where that has none, in the
nearest directory above it that has one. -/
def nearest? (files : Files m) (name : Bytes) : m (Option Bytes) := do
  let levels ← files.levels
  files.first? ((List.range (levels + 1)).map (pathAbove name))

end Files

/-- The files of a system that has no others than those of a directory, in which a program runs. -/
def Directory.files (d : Directory) : Files Id where
  read path := pure (d.read path)
  levels := pure 0

instance : Coe Directory (Files Id) := ⟨Directory.files⟩

end TableDraw
