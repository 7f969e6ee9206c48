import Backtrack.Process.Action
import Mathlib.Tactic.Common

/-!
Other calls. Where every call of a process is replaced by an action, the actions are rebuilt from
the replaced parts in the same way: the replacement commutes with each way to build an action.
-/
namespace Backtrack

variable {κ κ' : Type → Type 1} {σ τ ε : Type} {α β γ : Type}

namespace Process

variable (act : {α : Type} → κ α → Action κ' σ τ ε α)

/-- Replace every call by an action. -/
def graft : Process κ σ τ ε β → Process κ' σ τ ε β
  | done b => done b
  | fault reason => fault reason
  | emit event next => emit event fun u => (next u).graft
  | call callee s i next => (act callee s i).bind fun r => (next r).graft

@[simp] theorem graft_bind (p : Process κ σ τ ε α) (f : α → Process κ σ τ ε β) :
    (p.bind f).graft act = (p.graft act).bind fun a => (f a).graft act := by
  induction p with
  | done a => rfl
  | fault reason => rfl
  | emit event next ih => simp only [bind,graft,ih]
  | call callee s i next ih => simp only [bind,graft,ih,bind_assoc]

@[simp] theorem graft_map (p : Process κ σ τ ε α) (f : α → β) :
    (p.map f).graft act = (p.graft act).map f := graft_bind act p _

end Process

namespace Action

variable (act : {α : Type} → κ α → Action κ' σ τ ε α)

/-- Replace every call of an action by an action. -/
def graft (a : Action κ σ τ ε α) : Action κ' σ τ ε α := fun s i => (a s i).graft act

variable (a b : Action κ σ τ ε α)

@[simp] theorem graft_item : graft act (item : Action κ σ τ ε τ) = item := by
  funext s i
  simp only [graft,item]
  split <;> rfl

@[simp] theorem graft_updateState (update : σ → Except Fault σ) :
    graft act (updateState update : Action κ σ τ ε Unit) = updateState update := by
  funext s i
  simp only [graft,updateState]
  split <;> rfl

@[simp] theorem graft_andThen (next : Parsed σ τ α → Process κ σ τ ε (Reply σ τ ε β)) :
    graft act (a.andThen next) = (graft act a).andThen fun r => (next r).graft act := by
  funext s i
  simp only [graft,andThen,Process.graft_bind]
  congr 1
  funext r
  cases r <;> rfl

@[simp] theorem graft_orElse (other : Action κ σ τ ε α) :
    graft act (a.orElse other) = (graft act a).orElse (graft act other) := by
  funext s i
  simp only [graft,orElse,Process.graft_bind]
  congr 1
  funext r
  cases r <;> rfl

@[simp] theorem graft_announcing (event : Stream τ → Event) :
    graft act (a.announcing event) = (graft act a).announcing event := rfl

@[simp] theorem graft_map (f : α → β) : graft act (a.map f) = (graft act a).map f := by
  funext s i
  simp only [graft,map,Process.graft_map]

@[simp] theorem graft_bindAction (next : α → Action κ σ τ ε β) :
    graft act (a.bind next) = (graft act a).bind fun x => graft act (next x) := by
  simp only [bind,graft_andThen]
  rfl

@[simp] theorem graft_check (accept : α → Bool) :
    graft act (a.check accept) = (graft act a).check accept := by
  simp only [check,graft_andThen]
  rfl

@[simp] theorem graft_tuple {n : ℕ} {types : Fin n → Type}
    (actions : (k : Fin n) → Action κ σ τ ε (types k)) (make : ((k : Fin n) → types k) → β) :
    graft act (tuple n types actions make) =
      tuple n types (fun k => graft act (actions k)) make := by
  induction n with
  | zero => rfl
  | succ n ih => simp only [tuple,graft_bindAction,ih]

@[simp] theorem graft_sequence (actions : List (Action κ σ τ ε α)) :
    graft act (sequence actions) = sequence (actions.map (graft act)) := by
  have h : ∀ values, graft act (sequenceFrom values actions) =
      sequenceFrom values (actions.map (graft act)) := by
    induction actions with
    | nil => exact fun _ => rfl
    | cons a rest ih =>
      intro values
      simp only [sequenceFrom,List.map_cons,graft_andThen,← ih]
      rfl
  exact h []

@[simp] theorem graft_plus : graft act (a.plus b) = (graft act a).plus (graft act b) := by
  simp only [plus,graft_orElse,graft_announcing]

@[simp] theorem graft_choice (actions : List (Action κ σ τ ε α)) :
    graft act (choice actions) = choice (actions.map (graft act)) := by
  have h : ∀ index, graft act (choiceFrom index actions) =
      choiceFrom index (actions.map (graft act)) := by
    induction actions with
    | nil => exact fun _ => rfl
    | cons a rest ih =>
      intro index
      simp only [choiceFrom,List.map_cons,graft_orElse,graft_announcing,ih]
  exact h 0

@[simp] theorem graft_many0 : graft act a.many0 = (graft act a).many0 := by
  have h : ∀ n values s (i : Stream τ), i.length = n →
      (many0From a values s i).graft act = many0From (graft act a) values s i := by
    intro n
    induction n using Nat.strongRecOn with
    | _ n ih =>
      intro values s i hi
      rw [many0From,many0From,Process.graft_bind]
      -- the loop ends by the length of the input, so the rounds to come are shorter
      congr 1
      funext r
      cases r with
      | failure => rfl
      | error e => rfl
      | success r =>
        by_cases hr : r.rest.length < i.length
        · simp only [hr,if_true]
          exact ih _ (by omega) _ _ _ rfl
        · simp only [hr,if_false]
          rfl
  funext s i
  exact h _ [] s i rfl

@[simp] theorem graft_maybe : graft act a.maybe = (graft act a).maybe := by
  simp only [maybe,graft_orElse,graft_map]
  rfl

@[simp] theorem graft_not0 : graft act a.not0 = (graft act a).not0 := by
  funext s i
  simp only [graft,not0,Process.graft_map]

@[simp] theorem graft_lookahead : graft act a.lookahead = (graft act a).lookahead := by
  funext s i
  simp only [graft,lookahead,Process.graft_map]

@[simp] theorem graft_commit (payload : ε) :
    graft act (a.commit payload) = (graft act a).commit payload := by
  simp only [commit,graft_orElse,graft_announcing]
  rfl

@[simp] theorem graft_catchError (handler : ε → Action κ σ τ ε α) :
    graft act (a.catchError handler) =
      (graft act a).catchError fun e => graft act (handler e) := by
  funext s i
  simp only [graft,catchError,Process.graft_bind]
  congr 1
  funext r
  cases r <;> rfl

@[simp] theorem graft_mapError (f : ε → ε) :
    graft act (a.mapError f) = (graft act a).mapError f := by
  funext s i
  simp only [graft,mapError,Process.graft_map]

@[simp] theorem graft_call (callee : κ α) : graft act (.call callee) = act callee := by
  funext s i
  exact Process.bind_done _

@[simp] theorem graft_run : graft act a.run = (graft act a).run := by
  funext s i
  simp only [graft,run,Process.graft,Process.graft_bind]

@[simp] theorem graft_trial (state : σ) (tokens : Stream τ) :
    graft act (a.trial state tokens) = (graft act a).trial state tokens := by
  funext s i
  simp only [trial,← graft_run]
  exact Process.graft_map act _ _

end Action
end Backtrack
