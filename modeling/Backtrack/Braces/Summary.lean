import Backtrack.Braces.Form

/-!
Counts over forms.
-/
namespace Backtrack.Braces

/-- How much a list of forms holds. -/
structure Summary where
  /-- Characters that are no braces. -/
  chars : Nat := 0
  blocks : Nat := 0
  maxDepth : Nat := 0
  deriving DecidableEq, Repr

namespace Summary

/-- Count one mark, with the depth at which it stands. -/
def note : Summary × Nat → Mark → Summary × Nat
  | (s, depth), .char _ => ({ s with chars := s.chars + 1 }, depth)
  | (s, depth), .opening _ =>
    ({ s with blocks := s.blocks + 1, maxDepth := max s.maxDepth (depth + 1) }, depth + 1)
  | (s, depth), .closing _ => (s, depth - 1)

/-- Add the counts of forms that stand at a depth. -/
def visit (s : Summary) (forms : List Form) (depth : Nat) : Summary :=
  ((Form.marks forms).foldl note (s, depth)).1

def of (forms : List Form) : Summary := visit {} forms 0

def tree (s : Summary) : Text.Tree :=
  .record "Summary" [("chars", .leaf (toString s.chars)), ("blocks", .leaf (toString s.blocks)),
    ("max_depth", .leaf (toString s.maxDepth))]

def describe (s : Summary) : String := s.tree.compact

end Summary
end Backtrack.Braces
