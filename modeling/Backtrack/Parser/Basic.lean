import Backtrack.Outcome
import Backtrack.Fault
import Backtrack.Stream

/-!
Parsers as data. A parser reads tokens of type `τ`, threads a state of type `σ`, commits to
errors of type `ε` and produces a value. It may call itself in two ways: through a placeholder of
an enclosing `recursive`, whose type stands in the context `Γ`, or through a named rule of a
grammar.
-/
namespace Backtrack

/-- The names of a grammar's rules and the type of value that each of them produces. -/
structure Rules where
  Name : Type
  Out : Name → Type

/-- No rules at all. -/
def Rules.none : Rules := ⟨Empty, fun r => r.elim⟩

/-- Everything a successful parse hands on. -/
structure Parsed (σ τ α : Type) where
  state : σ
  rest : Stream τ
  value : α

namespace Parsed

variable {σ τ α β : Type}

/-- Replace the value; state and rest stay. -/
def map (f : α → β) (r : Parsed σ τ α) : Parsed σ τ β := ⟨r.state, r.rest, f r.value⟩

end Parsed

/-- What a parse answers. -/
abbrev Reply (σ τ ε α : Type) := Outcome (Parsed σ τ α) ε

/-- A placeholder: a place in the context that holds the type of its value. -/
inductive Slot : List Type → Type → Type 1
  | here {Γ : List Type} {α : Type} : Slot (α :: Γ) α
  | there {Γ : List Type} {α β : Type} (slot : Slot Γ α) : Slot (β :: Γ) α

/-- A parser over the placeholders `Γ` with values of type `α`. -/
inductive Parser (ρ : Rules) (σ τ ε : Type) : List Type → Type → Type 1
  /-- Consume one token; fail at the end of the input. -/
  | item {Γ} : Parser ρ σ τ ε Γ τ
  /-- Succeed with a value and consume nothing. -/
  | pure {Γ α} (value : α) : Parser ρ σ τ ε Γ α
  /-- Fail. -/
  | zero {Γ α} : Parser ρ σ τ ε Γ α
  /-- Commit to an error. -/
  | error {Γ α} (payload : ε) : Parser ρ σ τ ε Γ α
  /-- Stop the whole run. -/
  | fault {Γ α} (reason : Fault) : Parser ρ σ τ ε Γ α
  /-- The remaining tokens, which stay in place. -/
  | get {Γ} : Parser ρ σ τ ε Γ (Stream τ)
  /-- Go on with other tokens. -/
  | put {Γ} (tokens : Stream τ) : Parser ρ σ τ ε Γ Unit
  | getState {Γ} : Parser ρ σ τ ε Γ σ
  | putState {Γ} (state : σ) : Parser ρ σ τ ε Γ Unit
  /-- Replace the state by its image; an update may fault. -/
  | updateState {Γ} (update : σ → Except Fault σ) : Parser ρ σ τ ε Γ Unit
  | map {Γ α β} (f : α → β) (p : Parser ρ σ τ ε Γ α) : Parser ρ σ τ ε Γ β
  /-- Run `p`, then the parser that its value selects. -/
  | bind {Γ α β} (p : Parser ρ σ τ ε Γ α) (next : α → Parser ρ σ τ ε Γ β) : Parser ρ σ τ ε Γ β
  /-- Fail when the value is refused. -/
  | check {Γ α} (accept : α → Bool) (p : Parser ρ σ τ ε Γ α) : Parser ρ σ τ ε Γ α
  /-- Run parsers of several types in order and make one value of theirs. -/
  | tuple {Γ β} (n : Nat) (types : Fin n → Type)
      (parts : (k : Fin n) → Parser ρ σ τ ε Γ (types k)) (make : ((k : Fin n) → types k) → β) :
      Parser ρ σ τ ε Γ β
  /-- Run parsers of one type in order and collect their values. -/
  | sequence {Γ α} (n : Nat) (parts : Fin n → Parser ρ σ τ ε Γ α) : Parser ρ σ τ ε Γ (List α)
  /-- Left-biased choice: the right side runs only when the left side fails. -/
  | plus {Γ α} (p q : Parser ρ σ τ ε Γ α) : Parser ρ σ τ ε Γ α
  /-- The first of several alternatives that does not fail. -/
  | choice {Γ α} (n : Nat) (parts : Fin n → Parser ρ σ τ ε Γ α) : Parser ρ σ τ ε Γ α
  /-- Repeat until the first failure. -/
  | many0 {Γ α} (p : Parser ρ σ τ ε Γ α) : Parser ρ σ τ ε Γ (List α)
  /-- Report a failure as an absent value. -/
  | maybe {Γ α} (p : Parser ρ σ τ ε Γ α) : Parser ρ σ τ ε Γ (Option α)
  /-- Succeed in place exactly when `p` fails. -/
  | not0 {Γ α} (p : Parser ρ σ τ ε Γ α) : Parser ρ σ τ ε Γ Unit
  /-- Keep the value and the state of `p`, and rewind the tokens. -/
  | lookahead {Γ α} (p : Parser ρ σ τ ε Γ α) : Parser ρ σ τ ε Γ α
  /-- Turn a failure of `p` into a committed error. -/
  | commit {Γ α} (payload : ε) (p : Parser ρ σ τ ε Γ α) : Parser ρ σ τ ε Γ α
  /-- After a committed error, run another parser from where `p` began. The handler may commit to
  errors of another type; for why `ε` is one type still, see `mapError`. -/
  | catchError {Γ α} (p : Parser ρ σ τ ε Γ α) (handler : ε → Parser ρ σ τ ε Γ α) :
      Parser ρ σ τ ε Γ α
  /-- Transform the payload of a committed error. One type of errors is enough: where payloads of
  one type become payloads of another, `ε` is the sum of both types. Then `p` commits to its left
  side, and `f` leads from there to its right side. -/
  | mapError {Γ α} (f : ε → ε) (p : Parser ρ σ τ ε Γ α) : Parser ρ σ τ ε Γ α
  /-- Define a parser in terms of itself: the first placeholder of the body is the parser. -/
  | recursive {Γ α} (body : Parser ρ σ τ ε (α :: Γ) α) : Parser ρ σ τ ε Γ α
  /-- Run the definition that a placeholder stands for. -/
  | placeholder {Γ α} (slot : Slot Γ α) : Parser ρ σ τ ε Γ α
  /-- Run a rule of the grammar. -/
  | rule {Γ} (name : ρ.Name) : Parser ρ σ τ ε Γ (ρ.Out name)
  /-- Run `p` apart, on its own state and tokens, and succeed in place with its verdict. -/
  | trial {Γ α} (p : Parser ρ σ τ ε Γ α) (state : σ) (tokens : Stream τ) :
      Parser ρ σ τ ε Γ Verdict

/-- A definition for every rule. A rule stands alone: it sees no placeholder. -/
def Grammar (ρ : Rules) (σ τ ε : Type) := (name : ρ.Name) → Parser ρ σ τ ε [] (ρ.Out name)

/-- The grammar without rules. -/
def Grammar.none {σ τ ε : Type} : Grammar Rules.none σ τ ε := fun name => name.elim

/-- The definitions that the placeholders of a context stand for, innermost first. -/
inductive Env (ρ : Rules) (σ τ ε : Type) : List Type → Type 1
  | empty : Env ρ σ τ ε []
  | define {Γ : List Type} {α : Type} (body : Parser ρ σ τ ε (α :: Γ) α)
      (outer : Env ρ σ τ ε Γ) : Env ρ σ τ ε (α :: Γ)

/-- What a self-reference calls: a definition in its environment, or a rule. -/
inductive Callee (ρ : Rules) (σ τ ε : Type) : Type → Type 1
  | defined {Γ : List Type} {α : Type} (body : Parser ρ σ τ ε (α :: Γ) α)
      (outer : Env ρ σ τ ε Γ) : Callee ρ σ τ ε α
  | rule (name : ρ.Name) : Callee ρ σ τ ε (ρ.Out name)

/-- Look up the definition of a placeholder. -/
def Env.callee {ρ : Rules} {σ τ ε : Type} {Γ : List Type} {α : Type} :
    Env ρ σ τ ε Γ → Slot Γ α → Callee ρ σ τ ε α
  | .define body outer, .here => .defined body outer
  | .define _ outer, .there slot => outer.callee slot

end Backtrack
