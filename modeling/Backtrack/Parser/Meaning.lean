import Backtrack.Process.Action

/-!
What a parser does. The action of a parser is built from the actions of its parts; a
self-reference becomes a call, which the callee's own action answers.
-/
namespace Backtrack

variable {ρ : Rules} {σ τ ε : Type} {Γ : List Type} {α : Type}

/-- The action of a parser among the definitions of its placeholders. -/
def Parser.action {Γ : List Type} {α : Type} :
    Parser ρ σ τ ε Γ α → Env ρ σ τ ε Γ → Action (Callee ρ σ τ ε) σ τ ε α
  | .item, _ => .item
  | .pure value, _ => .pure value
  | .zero, _ => .zero
  | .error payload, _ => .error payload
  | .fault reason, _ => fun _ _ => .fault reason
  | .get, _ => .get
  | .put tokens, _ => .put tokens
  | .getState, _ => .getState
  | .putState state, _ => .putState state
  | .updateState update, _ => .updateState update
  | .map f p, env => (p.action env).map f
  | .bind p next, env => (p.action env).bind fun a => (next a).action env
  | .check accept p, env => (p.action env).check accept
  | .tuple n types parts make, env => .tuple n types (fun k => (parts k).action env) make
  | .sequence _ parts, env => .sequence (List.ofFn fun k => (parts k).action env)
  | .plus p q, env => (p.action env).plus (q.action env)
  | .choice _ parts, env => .choice (List.ofFn fun k => (parts k).action env)
  | .many0 p, env => (p.action env).many0
  | .maybe p, env => (p.action env).maybe
  | .not0 p, env => (p.action env).not0
  | .lookahead p, env => (p.action env).lookahead
  | .commit payload p, env => (p.action env).commit payload
  | .catchError p handler, env => (p.action env).catchError fun e => (handler e).action env
  | .mapError f p, env => (p.action env).mapError f
  | .recursive body, env => body.action (.define body env)
  | .placeholder slot, env => .call (env.callee slot)
  | .rule name, _ => .call (.rule name)
  | .trial p state tokens, env => (p.action env).trial state tokens

namespace Parser

variable {β : Type} (env : Env ρ σ τ ε Γ) (p : Parser ρ σ τ ε Γ α)

@[simp] theorem item_action : (item : Parser ρ σ τ ε Γ τ).action env = .item := rfl

@[simp] theorem pure_action (value : α) :
    (pure value : Parser ρ σ τ ε Γ α).action env = .pure value := rfl

@[simp] theorem zero_action : (zero : Parser ρ σ τ ε Γ α).action env = .zero := rfl

@[simp] theorem error_action (payload : ε) :
    (error payload : Parser ρ σ τ ε Γ α).action env = .error payload := rfl

@[simp] theorem fault_action (reason : Fault) :
    (fault reason : Parser ρ σ τ ε Γ α).action env = fun _ _ => .fault reason := rfl

@[simp] theorem get_action : (get : Parser ρ σ τ ε Γ (Stream τ)).action env = .get := rfl

@[simp] theorem put_action (tokens : Stream τ) :
    (put tokens : Parser ρ σ τ ε Γ Unit).action env = .put tokens := rfl

@[simp] theorem getState_action : (getState : Parser ρ σ τ ε Γ σ).action env = .getState := rfl

@[simp] theorem putState_action (state : σ) :
    (putState state : Parser ρ σ τ ε Γ Unit).action env = .putState state := rfl

@[simp] theorem updateState_action (update : σ → Except Fault σ) :
    (updateState update : Parser ρ σ τ ε Γ Unit).action env = .updateState update := rfl

@[simp] theorem map_action (f : α → β) : (map f p).action env = (p.action env).map f := rfl

@[simp] theorem bind_action (next : α → Parser ρ σ τ ε Γ β) :
    (bind p next).action env = (p.action env).bind fun a => (next a).action env := rfl

@[simp] theorem check_action (accept : α → Bool) :
    (check accept p).action env = (p.action env).check accept := rfl

@[simp] theorem tuple_action (n : Nat) (types : Fin n → Type)
    (parts : (k : Fin n) → Parser ρ σ τ ε Γ (types k)) (make : ((k : Fin n) → types k) → β) :
    (tuple n types parts make).action env =
      .tuple n types (fun k => (parts k).action env) make := rfl

@[simp] theorem sequence_action (n : Nat) (parts : Fin n → Parser ρ σ τ ε Γ α) :
    (sequence n parts).action env = .sequence (List.ofFn fun k => (parts k).action env) := rfl

@[simp] theorem plus_action (q : Parser ρ σ τ ε Γ α) :
    (plus p q).action env = (p.action env).plus (q.action env) := rfl

@[simp] theorem choice_action (n : Nat) (parts : Fin n → Parser ρ σ τ ε Γ α) :
    (choice n parts).action env = .choice (List.ofFn fun k => (parts k).action env) := rfl

@[simp] theorem many0_action : (many0 p).action env = (p.action env).many0 := rfl

@[simp] theorem maybe_action : (maybe p).action env = (p.action env).maybe := rfl

@[simp] theorem not0_action : (not0 p).action env = (p.action env).not0 := rfl

@[simp] theorem lookahead_action : (lookahead p).action env = (p.action env).lookahead := rfl

@[simp] theorem commit_action (payload : ε) :
    (commit payload p).action env = (p.action env).commit payload := rfl

@[simp] theorem catchError_action (handler : ε → Parser ρ σ τ ε Γ α) :
    (catchError p handler).action env =
      (p.action env).catchError fun e => (handler e).action env := rfl

@[simp] theorem mapError_action (f : ε → ε) :
    (mapError f p).action env = (p.action env).mapError f := rfl

@[simp] theorem recursive_action (body : Parser ρ σ τ ε (α :: Γ) α) :
    (recursive body).action env = body.action (.define body env) := rfl

@[simp] theorem placeholder_action (slot : Slot Γ α) :
    (placeholder slot : Parser ρ σ τ ε Γ α).action env = .call (env.callee slot) := rfl

@[simp] theorem rule_action (name : ρ.Name) :
    (rule name : Parser ρ σ τ ε Γ _).action env = .call (.rule name) := rfl

@[simp] theorem trial_action (state : σ) (tokens : Stream τ) :
    (trial p state tokens).action env = (p.action env).trial state tokens := rfl

end Parser

/-- What answers a call. -/
def Callee.action (G : Grammar ρ σ τ ε) : Callee ρ σ τ ε α → Action (Callee ρ σ τ ε) σ τ ε α
  | .defined body outer => body.action (.define body outer)
  | .rule name => (G name).action .empty

/-- A whole run of a parser that stands alone. -/
def Parser.run (p : Parser ρ σ τ ε [] α) : Action (Callee ρ σ τ ε) σ τ ε α :=
  (p.action .empty).run

end Backtrack
