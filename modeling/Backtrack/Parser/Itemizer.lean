import Backtrack.Parser.Combinators
import Backtrack.Position

/-!
Itemizers: how one token is consumed, and the token parsers that follow from it. The same grammar
then runs with a state that is left alone, counts tokens, or tracks line and column.
-/
namespace Backtrack

/-- A way to consume one token, at hand in every context. -/
structure Itemizer (ρ : Rules) (σ τ ε : Type) where
  item : {Γ : List Type} → Parser ρ σ τ ε Γ τ

namespace Itemizer

variable {ρ : Rules} {σ τ ε : Type} {Γ : List Type} {α : Type}

/-- Consume and leave the state alone. -/
def basic : Itemizer ρ σ τ ε := ⟨.item⟩

/-- Token counts stay below this number, the 64th power of two. -/
def countLimit : Nat := 0x10000000000000000

/-- Count consumed tokens in the state. -/
def count : Itemizer ρ Nat τ ε :=
  ⟨Parser.keepLeft .item (.updateState (checkedSucc countLimit))⟩

/-- Track the place of the next character in the state. -/
def position : Itemizer ρ Position Char ε :=
  ⟨.bind .item fun c => Parser.keepRight (.updateState (·.bump c)) (.pure c)⟩

variable (t : Itemizer ρ σ τ ε)

/-- A token that a predicate accepts. -/
def satisfy (accept : τ → Bool) : Parser ρ σ τ ε Γ τ := .check accept t.item

/-- A token that counts as `expected`. -/
def literalBy (same : τ → τ → Bool) (expected : τ) : Parser ρ σ τ ε Γ τ :=
  t.satisfy (same expected)

/-- A token equal to `expected`. -/
def literal [BEq τ] (expected : τ) : Parser ρ σ τ ε Γ τ := t.satisfy (· == expected)

/-- The tokens `expected` in order. -/
def string [BEq τ] (expected : List τ) : Parser ρ σ τ ε Γ (List τ) :=
  Parser.keepRight (Parser.seq (expected.map fun token => t.literal token)) (.pure expected)

/-- A token among `members`. -/
def oneOf [BEq τ] (members : List τ) : Parser ρ σ τ ε Γ τ := t.satisfy members.contains

/-- Consume one token where `p` does not match. -/
def not1 (p : Parser ρ σ τ ε Γ α) : Parser ρ σ τ ε Γ τ := Parser.keepRight (.not0 p) t.item

/-- What can be told of an itemizer: it is one. -/
def describe (_ : Itemizer ρ σ τ ε) : String := "Itemizer \x7b .. \x7d"

end Itemizer
end Backtrack
