import Backtrack.Parser.Basic

/-!
Combinators made from the ways to build a parser: what repetition, choice and sequence need for
everyday use.
-/
namespace Backtrack.Parser

variable {ρ : Rules} {σ τ ε : Type} {Γ : List Type}

/-! Parsers of several types in order: the tuple of their values, or a function of them. -/
section
variable {α₁ α₂ α₃ α₄ α₅ α₆ β : Type}

def tuple1 (p₁ : Parser ρ σ τ ε Γ α₁) : Parser ρ σ τ ε Γ α₁ :=
  .tuple 1 (fun | 0 => α₁) (fun | 0 => p₁) fun a => a 0

def tuple2 (p₁ : Parser ρ σ τ ε Γ α₁) (p₂ : Parser ρ σ τ ε Γ α₂) : Parser ρ σ τ ε Γ (α₁ × α₂) :=
  .tuple 2 (fun | 0 => α₁ | 1 => α₂) (fun | 0 => p₁ | 1 => p₂) fun a => (a 0, a 1)

def tuple3 (p₁ : Parser ρ σ τ ε Γ α₁) (p₂ : Parser ρ σ τ ε Γ α₂) (p₃ : Parser ρ σ τ ε Γ α₃) :
    Parser ρ σ τ ε Γ (α₁ × α₂ × α₃) :=
  .tuple 3 (fun | 0 => α₁ | 1 => α₂ | 2 => α₃) (fun | 0 => p₁ | 1 => p₂ | 2 => p₃)
    fun a => (a 0, a 1, a 2)

def tuple4 (p₁ : Parser ρ σ τ ε Γ α₁) (p₂ : Parser ρ σ τ ε Γ α₂) (p₃ : Parser ρ σ τ ε Γ α₃)
    (p₄ : Parser ρ σ τ ε Γ α₄) : Parser ρ σ τ ε Γ (α₁ × α₂ × α₃ × α₄) :=
  .tuple 4 (fun | 0 => α₁ | 1 => α₂ | 2 => α₃ | 3 => α₄)
    (fun | 0 => p₁ | 1 => p₂ | 2 => p₃ | 3 => p₄) fun a => (a 0, a 1, a 2, a 3)

def tuple5 (p₁ : Parser ρ σ τ ε Γ α₁) (p₂ : Parser ρ σ τ ε Γ α₂) (p₃ : Parser ρ σ τ ε Γ α₃)
    (p₄ : Parser ρ σ τ ε Γ α₄) (p₅ : Parser ρ σ τ ε Γ α₅) :
    Parser ρ σ τ ε Γ (α₁ × α₂ × α₃ × α₄ × α₅) :=
  .tuple 5 (fun | 0 => α₁ | 1 => α₂ | 2 => α₃ | 3 => α₄ | 4 => α₅)
    (fun | 0 => p₁ | 1 => p₂ | 2 => p₃ | 3 => p₄ | 4 => p₅) fun a => (a 0, a 1, a 2, a 3, a 4)

def tuple6 (p₁ : Parser ρ σ τ ε Γ α₁) (p₂ : Parser ρ σ τ ε Γ α₂) (p₃ : Parser ρ σ τ ε Γ α₃)
    (p₄ : Parser ρ σ τ ε Γ α₄) (p₅ : Parser ρ σ τ ε Γ α₅) (p₆ : Parser ρ σ τ ε Γ α₆) :
    Parser ρ σ τ ε Γ (α₁ × α₂ × α₃ × α₄ × α₅ × α₆) :=
  .tuple 6 (fun | 0 => α₁ | 1 => α₂ | 2 => α₃ | 3 => α₄ | 4 => α₅ | 5 => α₆)
    (fun | 0 => p₁ | 1 => p₂ | 2 => p₃ | 3 => p₄ | 4 => p₅ | 5 => p₆)
    fun a => (a 0, a 1, a 2, a 3, a 4, a 5)

def app1 (f : α₁ → β) (p₁ : Parser ρ σ τ ε Γ α₁) : Parser ρ σ τ ε Γ β := .map f (tuple1 p₁)

def app2 (f : α₁ → α₂ → β) (p₁ : Parser ρ σ τ ε Γ α₁) (p₂ : Parser ρ σ τ ε Γ α₂) :
    Parser ρ σ τ ε Γ β :=
  .map (fun (a₁, a₂) => f a₁ a₂) (tuple2 p₁ p₂)

def app3 (f : α₁ → α₂ → α₃ → β) (p₁ : Parser ρ σ τ ε Γ α₁) (p₂ : Parser ρ σ τ ε Γ α₂)
    (p₃ : Parser ρ σ τ ε Γ α₃) : Parser ρ σ τ ε Γ β :=
  .map (fun (a₁, a₂, a₃) => f a₁ a₂ a₃) (tuple3 p₁ p₂ p₃)

def app4 (f : α₁ → α₂ → α₃ → α₄ → β) (p₁ : Parser ρ σ τ ε Γ α₁) (p₂ : Parser ρ σ τ ε Γ α₂)
    (p₃ : Parser ρ σ τ ε Γ α₃) (p₄ : Parser ρ σ τ ε Γ α₄) : Parser ρ σ τ ε Γ β :=
  .map (fun (a₁, a₂, a₃, a₄) => f a₁ a₂ a₃ a₄) (tuple4 p₁ p₂ p₃ p₄)

def app5 (f : α₁ → α₂ → α₃ → α₄ → α₅ → β) (p₁ : Parser ρ σ τ ε Γ α₁)
    (p₂ : Parser ρ σ τ ε Γ α₂) (p₃ : Parser ρ σ τ ε Γ α₃) (p₄ : Parser ρ σ τ ε Γ α₄)
    (p₅ : Parser ρ σ τ ε Γ α₅) : Parser ρ σ τ ε Γ β :=
  .map (fun (a₁, a₂, a₃, a₄, a₅) => f a₁ a₂ a₃ a₄ a₅) (tuple5 p₁ p₂ p₃ p₄ p₅)

def app6 (f : α₁ → α₂ → α₃ → α₄ → α₅ → α₆ → β) (p₁ : Parser ρ σ τ ε Γ α₁)
    (p₂ : Parser ρ σ τ ε Γ α₂) (p₃ : Parser ρ σ τ ε Γ α₃) (p₄ : Parser ρ σ τ ε Γ α₄)
    (p₅ : Parser ρ σ τ ε Γ α₅) (p₆ : Parser ρ σ τ ε Γ α₆) : Parser ρ σ τ ε Γ β :=
  .map (fun (a₁, a₂, a₃, a₄, a₅, a₆) => f a₁ a₂ a₃ a₄ a₅ a₆) (tuple6 p₁ p₂ p₃ p₄ p₅ p₆)

end

section
variable {α β : Type}

/-- Run both in order and keep both values. -/
def both (p : Parser ρ σ τ ε Γ α) (q : Parser ρ σ τ ε Γ β) : Parser ρ σ τ ε Γ (α × β) := tuple2 p q

/-- Run both and keep the left value. -/
def keepLeft (p : Parser ρ σ τ ε Γ α) (q : Parser ρ σ τ ε Γ β) : Parser ρ σ τ ε Γ α :=
  .map Prod.fst (.both p q)

/-- Run both and keep the right value. -/
def keepRight (p : Parser ρ σ τ ε Γ α) (q : Parser ρ σ τ ε Γ β) : Parser ρ σ τ ε Γ β :=
  .map Prod.snd (.both p q)

/-- Run parsers in order and collect their values. -/
def seq (ps : List (Parser ρ σ τ ε Γ α)) : Parser ρ σ τ ε Γ (List α) :=
  let parts := ps.toArray
  .sequence parts.size fun k => parts[k]

/-- The same parser `n` times in a row. -/
def times (n : Nat) (p : Parser ρ σ τ ε Γ α) : Parser ρ σ τ ε Γ (List α) :=
  .sequence n fun _ => p

/-- The first of several parsers that does not fail. -/
def alt (ps : List (Parser ρ σ τ ε Γ α)) : Parser ρ σ τ ε Γ α :=
  let parts := ps.toArray
  .choice parts.size fun k => parts[k]

/-- One or more repetitions. -/
def many1 (p : Parser ρ σ τ ε Γ α) : Parser ρ σ τ ε Γ (List α) :=
  .check (fun values => !values.isEmpty) (.many0 p)

/-- `p`, or a default in place when `p` fails. -/
def optional (p : Parser ρ σ τ ε Γ α) (default : α) : Parser ρ σ τ ε Γ α :=
  .plus p (.pure default)

/-- Consume one token where `p` does not match. -/
def not1 (p : Parser ρ σ τ ε Γ α) : Parser ρ σ τ ε Γ τ := keepRight (.not0 p) .item

/-- Make the parser each time it runs. -/
def deferred (make : Unit → Parser ρ σ τ ε Γ α) : Parser ρ σ τ ε Γ α := .bind (.pure ()) make

/-- Succeed with a computed value, or stop with the fault of the computation. -/
def ofExcept : Except Fault α → Parser ρ σ τ ε Γ α
  | .ok value => .pure value
  | .error reason => .fault reason

end

/-- What can be told of a parser: it is one. -/
def describe {α : Type} (_ : Parser ρ σ τ ε Γ α) : String := "Parser \x7b .. \x7d"

end Backtrack.Parser
