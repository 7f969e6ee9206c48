/-!
Faults: the ways in which a run can stop without an outcome. A fault is not a value of the
parse, so no combinator can catch it.
-/
namespace Backtrack

/-- Why a run stopped without an outcome. -/
inductive Fault
  /-- A repeated parser succeeded without shortening the input, in the round begun at `offset`. -/
  | stalled (offset : Nat)
  /-- A placeholder outlived the definition that it stands for. -/
  | dropped
  /-- A placeholder was run before its definition was complete. -/
  | unfinished
  /-- A bounded counter was at its limit. -/
  | overflow
  deriving DecidableEq, Repr

namespace Fault

def message : Fault → String
  | stalled offset =>
    s!"many0: repeated parser succeeded without consuming input at token {offset}; " ++
      "the loop would never end"
  | dropped => "recursive parser used after its definition was dropped"
  | unfinished => "recursive parser used while its definition was still being built"
  | overflow => "attempt to add with overflow"

end Fault

/-- The successor of a counter that holds values below `limit`. -/
def checkedSucc (limit n : Nat) : Except Fault Nat :=
  if n + 1 < limit then .ok (n + 1) else .error .overflow

theorem checkedSucc_of_lt {limit n : Nat} (h : n + 1 < limit) :
    checkedSucc limit n = .ok (n + 1) := by simp [checkedSucc, h]

theorem checkedSucc_of_ge {limit n : Nat} (h : limit ≤ n + 1) :
    checkedSucc limit n = .error .overflow := by
  simp [checkedSucc, Nat.not_lt.mpr h]

end Backtrack
