import Backtrack.Fault
import Backtrack.Text.Tree

/-!
Line and column of a character, counted from one. Both are bounded counters, and moving past a
counter's limit is a fault.
-/
namespace Backtrack

/-- A place in a text: line and column, both counted from one. -/
structure Position where
  line : Nat
  column : Nat
  deriving DecidableEq, Repr

namespace Position

/-- Lines and columns stay below this number, the 32nd power of two. -/
def limit : Nat := 0x100000000

def start : Position := ⟨1, 1⟩

instance : Inhabited Position := ⟨start⟩

/-- The place after the character `c`: a newline begins the next line. -/
def bump (p : Position) (c : Char) : Except Fault Position :=
  if c = '\n' then
    (checkedSucc limit p.line).map fun line => ⟨line, 1⟩
  else
    (checkedSucc limit p.column).map fun column => ⟨p.line, column⟩

/-- Places are ordered by line, then by column. -/
instance : Ord Position where
  compare p q := (compare p.line q.line).then (compare p.column q.column)

def text (p : Position) : String := s!"{p.line}:{p.column}"

def tree (p : Position) : Text.Tree :=
  .record "Position" [("line", .leaf (toString p.line)), ("column", .leaf (toString p.column))]

def describe (p : Position) : String := p.tree.compact

/-- Every place passed on the way over characters, the first one included, and the fault that
ended the way early, if any; `before` holds the places before `p`, newest first. -/
def trailFrom (before : List Position) (p : Position) :
    List Char → List Position × Option Fault
  | [] => ((p :: before).reverse, none)
  | c :: cs =>
    match p.bump c with
    | .error reason => ((p :: before).reverse, some reason)
    | .ok next => trailFrom (p :: before) next cs

/-- The places on the way over `cs`. -/
def trail (p : Position) (cs : List Char) : List Position × Option Fault := p.trailFrom [] cs

end Position
end Backtrack
