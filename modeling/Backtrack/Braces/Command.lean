import Backtrack.Braces.Check
import Backtrack.Braces.Command.Options

/-!
The command line. A command is run against any way to read a source, so that what it prints and
its exit status are a function of the arguments and the source.
-/
namespace Backtrack.Braces.Command

/-- The text of a source that was read, or why it could not be. -/
def decode : Except ReadError ByteArray → Except ReadError String
  | .error reason => .error reason
  | .ok bytes =>
    match String.fromUTF8? bytes with
    | some text => .ok text
    | none => .error .notUtf8

/-- The source that options name, out of what reading it gave, and what is reported about it. -/
def source (options : Options) (content : Except ReadError ByteArray) :
    Except Error String × List Event :=
  match decode content with
  | .ok text => (.ok text, [.readSource options.path text.utf8ByteSize])
  | .error reason => (.error (.unreadable options.path reason), [])

/-- Count what a balanced source holds. -/
def checkSource (options : Options) (source : String) : Except Fault (Except Error Summary) :=
  match check source with
  | .error reason => .error reason
  | .ok checked =>
    match checked.result with
    | .ok forms => .ok (.ok (.of forms))
    | .error mismatch => .ok (.error (.unbalanced options.path mismatch))

/-- What a run of the program leaves behind. -/
structure Output where
  exit : Nat := 0
  stdout : String := ""
  stderr : String := ""
  deriving DecidableEq, Repr

def usage : String :=
  "Usage: trine-braces <command> [options]\n" ++
  "\n" ++
  "Commands:\n" ++
  "  check <file|->     Check that every brace is matched\n" ++
  "  tokens <file|->    Print each character with its line and column\n" ++
  "  help               Show this message\n" ++
  "  version            Show the version\n" ++
  "\n" ++
  "Options:\n" ++
  "  -q, --quiet        Print nothing when the input is balanced\n" ++
  "\n" ++
  "Set RUST_LOG (e.g. RUST_LOG=trine_parse=trace) to trace the parser.\n"

def version : String := "trine-braces 0.1.0"

namespace Output

/-- The usage is shown after an error in the arguments. -/
def ofError (error : Error) : Output where
  exit := error.exitCode
  stderr := "error: " ++ error.message ++ "\n" ++ if error.isUsage then "\n" ++ usage else ""

/-- A run that came to a fault. -/
def ofFault (reason : Fault) : Output where
  exit := 101
  stderr := reason.message ++ "\n"

/-- The line about a balanced source. -/
def ofSummary (options : Options) (summary : Summary) : Output where
  stdout :=
    if options.quiet then ""
    else s!"{options.path}: balanced ({summary.blocks} blocks, max depth {summary.maxDepth}, " ++
      s!"{summary.chars} other characters)\n"

end Output

/-- The check of a source. -/
def runCheck (options : Options) (source : String) : Output :=
  match checkSource options source with
  | .error reason => .ofFault reason
  | .ok (.error error) => .ofError error
  | .ok (.ok summary) => .ofSummary options summary

/-- The characters of a source, one a line. -/
def runTokens (_ : Options) (source : String) : Output :=
  match listTokens source with
  | .error reason => .ofFault reason
  | .ok lines => { stdout := String.join (lines.map (· ++ "\n")) }

/-- Run a command that needs a source: first the arguments have to be in order, then the source has
to be read. -/
def withSource {m : Type → Type} [Monad m] (read : String → m (Except ReadError ByteArray))
    (args : List String) (run : Options → String → Output) : m Output :=
  match Options.ofArgs args with
  | .error reason => Pure.pure (.ofError (.usage reason))
  | .ok options => do
    match (source options (← read options.path)).1 with
    | .error error => Pure.pure (.ofError error)
    | .ok text => Pure.pure (run options text)

/-- Run the program on its arguments, given how to read the source at a path. -/
def run {m : Type → Type} [Monad m] (read : String → m (Except ReadError ByteArray)) :
    List String → m Output
  | [] => Pure.pure { stderr := usage }
  | command :: args =>
    if command == "check" then withSource read args runCheck
    else if command == "tokens" then withSource read args runTokens
    else if command == "help" || command == "--help" || command == "-h" then
      Pure.pure { stderr := usage }
    else if command == "version" || command == "--version" || command == "-V" then
      Pure.pure { stdout := version ++ "\n" }
    else Pure.pure (.ofError (.usage (.unknownCommand command)))

end Backtrack.Braces.Command
