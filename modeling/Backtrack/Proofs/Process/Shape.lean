import Backtrack.Proofs.Process.Graft
import Backtrack.Proofs.Process.Trail

/-!
Shapes of actions. A combinator, taken apart from its parts, is an action that calls holes. With
the parts grafted into the holes it is the combinator again, and it can be followed without them,
each hole being answered by what its part is followed to.
-/
namespace Backtrack

variable {κ κ' : Type → Type 1} {σ τ ε : Type} {α β : Type}

/-- A call of the part at a place; `Out` says what values each part has. -/
inductive Hole {ι : Type} (Out : ι → Type) : Type → Type 1
  | part (k : ι) : Hole Out (Out k)

variable {ι : Type} {Out : ι → Type}

/-- Put a part into every hole. -/
def Hole.fill (parts : (k : ι) → Action κ σ τ ε (Out k)) : Hole Out α → Action κ σ τ ε α
  | .part k => parts k

@[simp] theorem Hole.fill_part (parts : (k : ι) → Action κ σ τ ε (Out k)) (k : ι) :
    fill parts (.part k) = parts k := rfl

/-- The part at a place. -/
abbrev Action.hole (k : ι) : Action (Hole Out) σ τ ε (Out k) := .call (.part k)

universe u

variable {μ : Type u} {note : Event → μ}

namespace Process

/-- To follow what was grafted is to answer the calls by it. -/
theorem follow_graft (act : {α : Type} → κ α → Action κ' σ τ ε α) (answers : Answers κ' σ τ ε μ)
    (p : Process κ σ τ ε β) : (p.graft act).follow note answers =
      p.follow note fun k s i => (act k s i).follow note answers := by
  induction p with
  | done b => rfl
  | fault reason => rfl
  | emit event next ih => simp only [graft,follow,ih]
  | call k s i next ih => simp only [graft,follow,follow_bind,ih]

/-- The state and the input of every call that is made while a process is followed. -/
def called (answers : Answers κ σ τ ε μ) : Process κ σ τ ε β → List (σ × Stream τ)
  | done _ => []
  | fault _ => []
  | emit _ next => (next ()).called answers
  | call k s i next =>
    (s,i) :: match (answers k s i).ending with
      | .answer r => (next r).called answers
      | .fault _ => []
      | .cut => []

end Process
end Backtrack
