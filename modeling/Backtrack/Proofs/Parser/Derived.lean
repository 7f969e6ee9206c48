import Backtrack.Parser.Combinators
import Backtrack.Parser.Meaning
import Backtrack.Proofs.Process.Laws

/-!
What the derived combinators do.
-/
namespace Backtrack.Parser

variable {ρ : Rules} {σ τ ε : Type} {Γ : List Type} {α β : Type} (env : Env ρ σ τ ε Γ)

/-- Keeping both values is going on from the left one to the right one. -/
@[simp] theorem both_action (p : Parser ρ σ τ ε Γ α) (q : Parser ρ σ τ ε Γ β) :
    (both p q).action env = (p.action env).bind fun x => (q.action env).map fun y => (x,y) := by
  simp only [Action.map_eq_bind]
  rfl

@[simp] theorem keepLeft_action (p : Parser ρ σ τ ε Γ α) (q : Parser ρ σ τ ε Γ β) :
    (keepLeft p q).action env = (p.action env).bind fun x => (q.action env).map fun _ => x := by
  rw [keepLeft,map_action,both_action,Action.bind_map]
  simp only [Action.map_map]

@[simp] theorem keepRight_action (p : Parser ρ σ τ ε Γ α) (q : Parser ρ σ τ ε Γ β) :
    (keepRight p q).action env = (p.action env).bind fun _ => q.action env := by
  rw [keepRight,map_action,both_action,Action.bind_map]
  simp only [Action.map_map,Action.map_self]

@[simp] theorem app2_action {γ : Type} (f : α → β → γ) (p : Parser ρ σ τ ε Γ α)
    (q : Parser ρ σ τ ε Γ β) :
    (app2 f p q).action env = (p.action env).bind fun x => (q.action env).map fun y => f x y := by
  rw [app2,map_action,← both,both_action,Action.bind_map]
  simp only [Action.map_map]

@[simp] theorem many1_action (p : Parser ρ σ τ ε Γ α) :
    (many1 p).action env = (p.action env).many0.check fun values => !values.isEmpty := by
  simp [many1]

@[simp] theorem optional_action (p : Parser ρ σ τ ε Γ α) (default : α) :
    (optional p default).action env = (p.action env).plus (.pure default) := by
  simp [optional]

@[simp] theorem not1_action (p : Parser ρ σ τ ε Γ α) :
    (not1 p).action env = (p.action env).not0.bind fun _ => .item := by
  simp [not1]

@[simp] theorem seq_action (ps : List (Parser ρ σ τ ε Γ α)) :
    (seq ps).action env = .sequence (ps.map fun p => p.action env) := by
  rw [seq,sequence_action]
  congr 1
  apply List.ext_getElem <;> simp

@[simp] theorem alt_action (ps : List (Parser ρ σ τ ε Γ α)) :
    (alt ps).action env = .choice (ps.map fun p => p.action env) := by
  rw [alt,choice_action]
  congr 1
  apply List.ext_getElem <;> simp

end Backtrack.Parser
