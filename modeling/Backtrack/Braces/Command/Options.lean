import Backtrack.Braces.Command.Error

/-!
The arguments that follow a command: one path and any number of quiet flags, in any order.
-/
namespace Backtrack.Braces.Command

/-- What the arguments ask for. -/
structure Options where
  /-- The file to read, or `-` for standard input. -/
  path : String := ""
  /-- Print nothing about a balanced source. -/
  quiet : Bool := false
  deriving DecidableEq, Repr

/-- What an argument is by itself. -/
inductive Argument
  | quiet
  | path (path : String)
  | unknown (argument : String)
  deriving DecidableEq, Repr

/-- Only `-` itself is a path that begins with `-`. -/
def Argument.ofString (argument : String) : Argument :=
  if argument == "--quiet" || argument == "-q" then .quiet
  else if argument == "-" || !argument.startsWith "-" then .path argument
  else .unknown argument

namespace Options

/-- Read arguments in order after a path and a flag that may have come before. The first argument
out of place decides. -/
def ofArgsFrom (path : Option String) (quiet : Bool) : List String → Except UsageError Options
  | [] =>
    match path with
    | some path => .ok ⟨path, quiet⟩
    | none => .error .missingPath
  | argument :: rest =>
    match Argument.ofString argument with
    | .quiet => ofArgsFrom path true rest
    | .unknown argument => .error (.unknownOption argument)
    | .path argument =>
      match path with
      | some _ => .error (.unexpectedArgument argument)
      | none => ofArgsFrom (some argument) quiet rest

def ofArgs (args : List String) : Except UsageError Options := ofArgsFrom none false args

def tree (options : Options) : Text.Tree :=
  .record "CheckConfig" [("path", .leaf (Text.quotedString options.path)),
    ("quiet", .leaf (if options.quiet then "true" else "false"))]

def describe (options : Options) : String := options.tree.compact

end Options
end Backtrack.Braces.Command
