import TableDraw.Command

set_option autoImplicit false

/-!
The program: it reads the environment and the files, tells the time, and prints. What is read and
printed is decided by `Command.runWith`, of which `command` is the instance for files and a clock
that are known beforehand.
-/

namespace TableDraw.Main

/-- The system's number of an error, which some calls report with a minus sign. -/
def errorNumber (code : UInt32) : UInt32 := min code (0 - code)

/-- The cause of a failure to read a file. -/
def fileError : IO.Error → FileError
  | .noFileOrDirectory .. => .notFound
  | .permissionDenied .. => .other "Permission denied (os error 13)"
  | .inappropriateType _ code details =>
      if errorNumber code = 20 then .notDirectory
      else if errorNumber code = 21 then .isDirectory
      else .other details
  | .invalidArgument _ code details =>
      if errorNumber code = 36 then .nameTooLong else .other details
  | e => .other (toString e)

/-- The content of the file at a path. -/
def readFile (path : Bytes) : IO (Except FileError Bytes) := do
  if path.contains 0 then return .error .invalidName
  match Utf8.decode? path with
  | none => return .error .notFound
  | some name =>
      try return .ok (← IO.FS.readBinFile (String.ofList name)).toList
      catch e => return .error (fileError e)

/-- The variables that the program is started with. -/
def environment : IO Environment := do
  match ← readFile (Utf8.encode "/proc/self/environ".toList) with
  | .ok block => return .ofBlock block
  | .error _ => return ⟨[]⟩

/-- The files of the system. -/
def files : Files IO where
  read := readFile
  levels := return (← IO.currentDir).components.length - 1

/-- Starts to measure time. -/
def stopwatch : IO (Nat → IO Duration) := do
  let begun ← IO.monoNanosNow
  return fun _ => return ⟨(← IO.monoNanosNow) - begun⟩

/-- Prints what a command leaves behind, and gives its exit code. -/
def print (outcome : Command.Outcome) : IO UInt32 := do
  let errors ← IO.getStderr
  for r in outcome.log do
    errors.putStrLn r.line
  errors.putStr outcome.message
  IO.print outcome.output
  return UInt32.ofNat outcome.exit

end TableDraw.Main

/-- Runs the command in the working directory. -/
def main (args : List String) : IO UInt32 := do
  let arguments := args.map (fun argument => TableDraw.Utf8.encode argument.toList)
  TableDraw.Main.print (← TableDraw.Command.runWith arguments (← TableDraw.Main.environment)
    TableDraw.Main.files TableDraw.Main.stopwatch)
