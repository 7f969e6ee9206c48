import Backtrack.Parser.Basic
import Mathlib.Tactic.Common

/-!
Parsers in the place of placeholders. A placeholder is replaced wherever it occurs, in the bodies of
further definitions too, by another placeholder or by a parser that stands alone.
-/
namespace Backtrack

variable {ρ : Rules} {σ τ ε : Type}

/-- What may replace a placeholder: a placeholder, or a parser at hand in every context. -/
inductive Filler (ρ : Rules) (σ τ ε : Type) (Γ : List Type) (α : Type) : Type 1
  | slot (slot : Slot Γ α)
  | whole (p : {Γ : List Type} → Parser ρ σ τ ε Γ α)

namespace Filler

variable {Γ : List Type} {α β : Type}

def parser : Filler ρ σ τ ε Γ α → Parser ρ σ τ ε Γ α
  | slot s => .placeholder s
  | whole p => p

/-- The same filler inside one more definition. -/
def there : Filler ρ σ τ ε Γ α → Filler ρ σ τ ε (β :: Γ) α
  | slot s => .slot (.there s)
  | whole p => .whole p

end Filler

/-- A filler for every placeholder of `Γ`. -/
abbrev Filling (ρ : Rules) (σ τ ε : Type) (Γ Δ : List Type) :=
  (α : Type) → Slot Γ α → Filler ρ σ τ ε Δ α

/-- The filling inside one more definition, whose own placeholder stays. -/
def Filling.under {Γ Δ : List Type} (θ : Filling ρ σ τ ε Γ Δ) (β : Type) :
    Filling ρ σ τ ε (β :: Γ) (β :: Δ)
  | _, .here => .slot .here
  | _, .there slot => (θ _ slot).there

/-- Replace all placeholders. -/
def Parser.fill {Γ : List Type} {α : Type} : Parser ρ σ τ ε Γ α → {Δ : List Type} →
    Filling ρ σ τ ε Γ Δ → Parser ρ σ τ ε Δ α
  | .item, _, _ => .item
  | .pure value, _, _ => .pure value
  | .zero, _, _ => .zero
  | .error payload, _, _ => .error payload
  | .fault reason, _, _ => .fault reason
  | .get, _, _ => .get
  | .put tokens, _, _ => .put tokens
  | .getState, _, _ => .getState
  | .putState state, _, _ => .putState state
  | .updateState update, _, _ => .updateState update
  | .map f p, _, θ => .map f (p.fill θ)
  | .bind p next, _, θ => .bind (p.fill θ) fun a => (next a).fill θ
  | .check accept p, _, θ => .check accept (p.fill θ)
  | .tuple n types parts make, _, θ => .tuple n types (fun k => (parts k).fill θ) make
  | .sequence n parts, _, θ => .sequence n fun k => (parts k).fill θ
  | .plus p q, _, θ => .plus (p.fill θ) (q.fill θ)
  | .choice n parts, _, θ => .choice n fun k => (parts k).fill θ
  | .many0 p, _, θ => .many0 (p.fill θ)
  | .maybe p, _, θ => .maybe (p.fill θ)
  | .not0 p, _, θ => .not0 (p.fill θ)
  | .lookahead p, _, θ => .lookahead (p.fill θ)
  | .commit payload p, _, θ => .commit payload (p.fill θ)
  | .catchError p handler, _, θ => .catchError (p.fill θ) fun e => (handler e).fill θ
  | .mapError f p, _, θ => .mapError f (p.fill θ)
  | .recursive body, _, θ => .recursive (body.fill (θ.under _))
  | .placeholder slot, _, θ => (θ _ slot).parser
  | .rule name, _, _ => .rule name
  | .trial p state tokens, _, θ => .trial (p.fill θ) state tokens

/-- A parser without free placeholders, at hand in every context. -/
def Parser.anywhere {Γ : List Type} {α : Type} (p : Parser ρ σ τ ε [] α) : Parser ρ σ τ ε Γ α :=
  p.fill fun _ slot => nomatch slot

/-- Every use of the one placeholder of `body` replaced by `p`. -/
def Parser.instantiate {α β : Type} (body : Parser ρ σ τ ε [β] α) (p : Parser ρ σ τ ε [] β) :
    Parser ρ σ τ ε [] α :=
  body.fill fun
    | _, .here => .whole p.anywhere

@[simp] theorem Parser.anywhere_rule {Γ : List Type} (name : ρ.Name) :
    (rule name : Parser ρ σ τ ε [] _).anywhere = (rule name : Parser ρ σ τ ε Γ _) := rfl

end Backtrack
