import Backtrack.Outcome

/-!
Events: what a run reports about itself, in order. Every event has a level, a message and
labelled fields.
-/
namespace Backtrack

/-- How much detail an event belongs to. -/
inductive Level
  | trace
  | debug
  deriving DecidableEq, Repr

def Level.name : Level → String
  | trace => "TRACE"
  | debug => "DEBUG"

/-- One report of a run; offsets are places in the buffer that is read. -/
inductive Event
  /-- A run begins on this many tokens. -/
  | run (tokens : Nat)
  /-- A run ends. Only a success consumes tokens. -/
  | runFinished (verdict : Verdict) (consumed : Nat)
  /-- The token at this offset was consumed. -/
  | item (offset : Nat)
  /-- The left side of a choice failed, and the right side is tried. -/
  | plusBacktrack (offset : Nat)
  /-- One of several alternatives failed. -/
  | altBacktrack (index offset : Nat)
  /-- A repetition stopped at a failure. -/
  | many0Done (count offset : Nat)
  /-- A failure became a committed error. -/
  | commitEscalated (offset : Nat)
  /-- A brace check begins on this many characters. -/
  | check (chars : Nat)
  /-- A source was read. -/
  | readSource (path : String) (bytes : Nat)
  deriving DecidableEq, Repr

namespace Event

/-- The value of a field. -/
inductive Field
  | number (n : Nat)
  | text (s : String)
  deriving DecidableEq, Repr

def level : Event → Level
  | run .. | runFinished .. | commitEscalated .. | check .. | readSource .. => .debug
  | item .. | plusBacktrack .. | altBacktrack .. | many0Done .. => .trace

def message : Event → String
  | run .. => "run"
  | runFinished .. => "run finished"
  | item .. => "item"
  | plusBacktrack .. => "plus: backtrack"
  | altBacktrack .. => "alt: backtrack"
  | many0Done .. => "many0: done"
  | commitEscalated .. => "commit: failure escalated to error"
  | check .. => "check"
  | readSource .. => "read source"

def fields : Event → List (String × Field)
  | run tokens => [("tokens", .number tokens)]
  | runFinished verdict consumed =>
    [("outcome", .text verdict.name), ("consumed", .number consumed)]
  | item offset => [("position", .number offset)]
  | plusBacktrack offset => [("position", .number offset)]
  | altBacktrack index offset => [("index", .number index), ("position", .number offset)]
  | many0Done count offset => [("count", .number count), ("position", .number offset)]
  | commitEscalated offset => [("position", .number offset)]
  | check chars => [("chars", .number chars)]
  | readSource path bytes => [("path", .text path), ("bytes", .number bytes)]

end Event
end Backtrack
