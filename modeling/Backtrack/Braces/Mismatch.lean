import Backtrack.Braces.Located

/-!
Braces without a partner.
-/
namespace Backtrack.Braces

/-- A brace without a partner. -/
inductive Mismatch
  /-- An opening brace that is still open at the end. -/
  | unmatchedOpen (brace : Located)
  /-- A closing brace where nothing is open. -/
  | unmatchedClose (brace : Located)
  deriving DecidableEq, Repr

namespace Mismatch

def brace : Mismatch → Located
  | unmatchedOpen b => b
  | unmatchedClose b => b

/-- The name of the kind of mismatch. -/
def kind : Mismatch → String
  | unmatchedOpen _ => "UnmatchedOpen"
  | unmatchedClose _ => "UnmatchedClose"

/-- What is wrong, without the place. -/
def message : Mismatch → String
  | unmatchedOpen _ => "unmatched \x7b"
  | unmatchedClose _ => "unmatched \x7d"

def text (m : Mismatch) : String := m.message ++ ": " ++ m.brace.text

def tree (m : Mismatch) : Text.Tree := .record m.kind [("brace", m.brace.tree)]

def describe (m : Mismatch) : String := m.tree.compact

end Mismatch
end Backtrack.Braces
