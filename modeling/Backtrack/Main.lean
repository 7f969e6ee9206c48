import Backtrack.Braces.Command

/-!
The program: it reads the source that the arguments name, prints, and exits.
-/
namespace Backtrack.Braces.Command

/-- Whether the system means this error number, which it reports with either sign. -/
def isCode (number code : UInt32) : Bool := code == number || code == 0 - number

/-- The cause of a failed reading. -/
def ReadError.ofError : IO.Error → ReadError
  | .noFileOrDirectory .. => .notFound
  | .inappropriateType _ code _ => if isCode 21 code then .isDirectory else .notDirectory
  | .invalidArgument _ code reason =>
    if isCode 36 code then .nameTooLong else .other reason
  | .permissionDenied .. => .other "Permission denied (os error 13)"
  | error => .other error.toString

/-- All that standard input holds. -/
partial def readAll (input : IO.FS.Stream) (before : ByteArray) : IO ByteArray := do
  let chunk ← input.read 65536
  if chunk.isEmpty then return before else readAll input (before ++ chunk)

/-- The bytes at a path, where `-` is standard input. -/
def readPath (path : String) : IO (Except ReadError ByteArray) := do
  try
    if path == "-" then return .ok (← readAll (← IO.getStdin) .empty)
    else if path.isEmpty then return .error .notFound
    else return .ok (← IO.FS.readBinFile path)
  catch error => return .error (.ofError error)

end Backtrack.Braces.Command

/-- Run a command on the arguments of the program. -/
def main (args : List String) : IO UInt32 := do
  let output ← Backtrack.Braces.Command.run Backtrack.Braces.Command.readPath args
  (← IO.getStdout).putStr output.stdout
  (← IO.getStderr).putStr output.stderr
  return output.exit.toUInt32
