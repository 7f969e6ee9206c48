import Backtrack.Process.Machine

/-!
Plans: the building of a parser that may first have to try others. A plan that is carried out at
once runs every trial by itself; a plan that is carried out during a run becomes part of it.
-/
namespace Backtrack.Script

/-- Something to build, once the verdicts of some trials are known. -/
inductive Plan (ρ : Rules) (σ τ ε : Type) (Γ : List Type) (β : Type 1) : Type 1
  | ready (result : β)
  | trial {α : Type} (p : Parser ρ σ τ ε Γ α) (state : σ) (tokens : Stream τ)
      (next : Verdict → Plan ρ σ τ ε Γ β)

namespace Plan

variable {ρ : Rules} {σ τ ε : Type} {Γ : List Type} {β γ : Type 1}

def bind : Plan ρ σ τ ε Γ β → (β → Plan ρ σ τ ε Γ γ) → Plan ρ σ τ ε Γ γ
  | ready b, f => f b
  | trial p s i next, f => trial p s i fun v => (next v).bind f

instance : Monad (Plan ρ σ τ ε Γ) where
  pure := ready
  bind := bind

/-- Build while running: every trial is run where the built parser will run. -/
def toParser {α : Type} : Plan ρ σ τ ε Γ (Parser ρ σ τ ε Γ α) → Parser ρ σ τ ε Γ α
  | ready p => p
  | trial p s i next => .bind (.trial p s i) fun v => (next v).toParser

/-- Why nothing was built. -/
inductive Obstacle
  /-- A trial came to a fault. -/
  | fault (reason : Fault)
  /-- A trial took more steps than allowed. -/
  | exhausted

/-- Build at once; a trial takes at most `fuel` steps. -/
def resolve (G : Grammar ρ σ τ ε) (fuel : Nat) : Plan ρ σ τ ε [] β → Except Obstacle β
  | ready b => .ok b
  | trial p s i next =>
    match ((p.run s i).config.runFor G fuel).map Report.result with
    | none => .error .exhausted
    | some (.error reason) => .error (.fault reason)
    | some (.ok reply) => (next reply.verdict).resolve G fuel

end Plan
end Backtrack.Script
