import Backtrack.Parser.Combinators
import Backtrack.Parser.Meaning
import Backtrack.Proofs.Process.Laws

/-!
Parsers as a monad. A value in place selects what to go on with, to go on in place changes nothing,
and steps that go on from each other may be grouped in any way. To transform a value is to go on
from it in place. All this holds from event to event, since both sides are the same processes.
-/
namespace Backtrack.Parser

variable {ρ : Rules} {σ τ ε : Type} {Γ : List Type} {α β γ : Type}

/-- A computation that goes on from another one, as a parser that goes on from another one. -/
lemma ofExcept_bind_action (env : Env ρ σ τ ε Γ) (x : Except Fault α) (f : α → Except Fault β) :
    ((ofExcept x).action env).bind (fun y => (ofExcept (f y)).action env) =
      (ofExcept (x.bind f)).action env := by
  cases x with
  | ok y => rfl
  | error reason => rfl

/-- To transform a value by the identity changes nothing, and to transform it twice is to transform
it by the composed function. A value in place goes on with what it selects, a parser goes on in
place with what it does itself, and going on is associative. To transform a value is to go on from
it in place, and where the functions may stop with a fault, they still compose. Both sides are the
same on every state and input, from event to event. -/
theorem monad_laws (env : Env ρ σ τ ε Γ) (p : Parser ρ σ τ ε Γ α) (f : α → β) (g : β → γ) (x : α)
    (next : α → Parser ρ σ τ ε Γ β) (last : β → Parser ρ σ τ ε Γ γ) (f' : α → Except Fault β)
    (g' : β → Except Fault γ) :
    (map id p).action env = p.action env ∧
    (map g (map f p)).action env = (map (g ∘ f) p).action env ∧
    (bind (pure x) next).action env = (next x).action env ∧
    (bind p pure).action env = p.action env ∧
    (bind (bind p next) last).action env = (bind p fun y => bind (next y) last).action env ∧
    (map f p).action env = (bind p fun y => pure (f y)).action env ∧
    (bind (bind p fun y => ofExcept (f' y)) fun z => ofExcept (g' z)).action env =
      (bind p fun y => ofExcept ((f' y).bind g')).action env := by
  refine ⟨?_,?_,?_,?_,?_,?_,?_⟩
  · exact Action.map_self _
  · exact Action.map_map _ f g
  · rfl
  · exact Action.bind_pure _
  · exact Action.bind_assoc _ _ _
  · exact Action.map_eq_bind _ f
  · simp only [bind_action,Action.bind_assoc,ofExcept_bind_action]

end Backtrack.Parser
