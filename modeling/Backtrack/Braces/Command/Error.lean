import Backtrack.Braces.Mismatch

/-!
What can go wrong on the command line, with the text and the exit status of each case.
-/
namespace Backtrack.Braces.Command

/-- Arguments that no command takes. -/
inductive UsageError
  | unexpectedArgument (argument : String)
  | unknownOption (argument : String)
  | missingPath
  | unknownCommand (name : String)
  deriving DecidableEq, Repr

def UsageError.message : UsageError → String
  | unexpectedArgument argument => "unexpected argument `" ++ argument ++ "`"
  | unknownOption argument => "unknown option `" ++ argument ++ "`"
  | missingPath => "missing file path"
  | unknownCommand name => "unknown command `" ++ name ++ "`"

/-- Why a source could not be read. -/
inductive ReadError
  | notFound
  | isDirectory
  | notDirectory
  /-- The path, or a name in it, has more bytes than allowed. -/
  | nameTooLong
  | nulInPath
  | notUtf8
  | other (message : String)
  deriving DecidableEq, Repr

def ReadError.message : ReadError → String
  | notFound => "No such file or directory (os error 2)"
  | isDirectory => "Is a directory (os error 21)"
  | notDirectory => "Not a directory (os error 20)"
  | nameTooLong => "File name too long (os error 36)"
  | nulInPath => "file name contained an unexpected NUL byte"
  | notUtf8 => "stream did not contain valid UTF-8"
  | other message => message

/-- Why a command did not succeed. -/
inductive Error
  | usage (reason : UsageError)
  | unreadable (path : String) (reason : ReadError)
  | unbalanced (path : String) (mismatch : Mismatch)
  deriving DecidableEq, Repr

namespace Error

def message : Error → String
  | usage reason => reason.message
  | unreadable path reason => "cannot read " ++ path ++ ": " ++ reason.message
  | unbalanced path mismatch =>
    path ++ ":" ++ mismatch.brace.position.text ++ ": " ++ mismatch.message

/-- Unbalanced sources are told apart from everything else. -/
def exitCode : Error → Nat
  | usage _ => 2
  | unreadable _ _ => 2
  | unbalanced _ _ => 1

def isUsage : Error → Bool
  | usage _ => true
  | unreadable _ _ => false
  | unbalanced _ _ => false

end Error
end Backtrack.Braces.Command
