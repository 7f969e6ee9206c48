/-!
A deep descent: the sum of all levels from a depth down to zero, one level at a time.
-/
namespace Backtrack.Descent

/-- Go down from `depth`; `sum` holds the levels passed so far. -/
def sumFrom (sum : Nat) : Nat → Nat
  | 0 => sum
  | depth + 1 => sumFrom (sum + (depth + 1)) depth

def sum (depth : Nat) : Nat := sumFrom 0 depth

end Backtrack.Descent
