import Backtrack.Proofs.Parser.Derived
import Backtrack.Proofs.Process.Laws

/-!
Ways to run parsers in order. Parsers of one type in a list, parsers of several types in a tuple,
and parsers that go on from each other's values one by one are the same processes: they hand on
states and tokens from the left to the right, and the first of them that does not succeed decides.
-/
namespace Backtrack.Parser

variable {ρ : Rules} {σ τ ε : Type} {Γ : List Type} {α : Type}

/-- Go on from every parser to those behind it, and put its value before theirs. -/
def chain : List (Parser ρ σ τ ε Γ α) → Parser ρ σ τ ε Γ (List α)
  | [] => pure []
  | p :: ps => bind p fun x => bind (chain ps) fun xs => pure (x :: xs)

lemma chain_action (env : Env ρ σ τ ε Γ) (ps : List (Parser ρ σ τ ε Γ α)) :
    (chain ps).action env = .sequence (ps.map fun p => p.action env) := by
  induction ps with
  | nil => rfl
  | cons p ps ih =>
    rw [chain,List.map_cons,Action.sequence_cons]
    simp only [bind_action,pure_action,ih,Action.map_eq_bind]

lemma seq_agrees (env : Env ρ σ τ ε Γ) (ps : List (Parser ρ σ τ ε Γ α)) :
    (seq ps).action env = (chain ps).action env := by
  rw [seq_action,chain_action]

lemma seq_append_agrees (env : Env ρ σ τ ε Γ) (ps qs : List (Parser ρ σ τ ε Γ α)) :
    (seq (ps ++ qs)).action env =
      (map (fun (xs,ys) => xs ++ ys) (both (seq ps) (seq qs))).action env := by
  simp only [seq_action,map_action,both_action,List.map_append,Action.sequence_append,
    Action.bind_map,Action.map_map]

/-! Tuples of every length. -/
section

variable {β γ : Type} {n : ℕ} {types : Fin n → Type} (env : Env ρ σ τ ε Γ)
  (parts : (k : Fin n) → Parser ρ σ τ ε Γ (types k)) (make : ((k : Fin n) → types k) → β)

/-- A function of what a tuple makes is made by the tuple. -/
lemma map_tuple_action (f : β → γ) : (map f (tuple n types parts make)).action env =
    (tuple n types parts fun values => f (make values)).action env :=
  Action.map_tuple _ make f

/-- Going on from a parser to a tuple is one longer tuple. -/
lemma both_tuple_action (p : Parser ρ σ τ ε Γ α) : (both p (tuple n types parts make)).action env =
    (bind p fun x => tuple n types parts fun values => (x,make values)).action env := by
  simp only [both_action,tuple_action,Action.map_tuple,bind_action]

lemma both_action_congr (p : Parser ρ σ τ ε Γ α) {q q' : Parser ρ σ τ ε Γ β}
    (h : q.action env = q'.action env) : (both p q).action env = (both p q').action env := by
  rw [both_action,both_action,h]

end

/-! Tuples of one to six parsers: the tuple, its parts in pairs, and a function of its values. -/
section

variable {α₁ α₂ α₃ α₄ α₅ α₆ : Type} (env : Env ρ σ τ ε Γ) (p₁ : Parser ρ σ τ ε Γ α₁)
  (p₂ : Parser ρ σ τ ε Γ α₂) (p₃ : Parser ρ σ τ ε Γ α₃) (p₄ : Parser ρ σ τ ε Γ α₄)
  (p₅ : Parser ρ σ τ ε Γ α₅) (p₆ : Parser ρ σ τ ε Γ α₆)

lemma tuple1_agrees :
    (tuple1 p₁).action env = (bind p₁ fun a₁ => pure a₁).action env ∧
    p₁.action env = (bind p₁ fun a₁ => pure a₁).action env ∧
    ∀ {β : Type} (f : α₁ → β),
      (app1 f p₁).action env = (bind p₁ fun a₁ => pure (f a₁)).action env :=
  ⟨rfl,(Action.bind_pure _).symm,fun f => map_tuple_action env _ _ f⟩

lemma tuple2_agrees :
    (tuple2 p₁ p₂).action env =
      (bind p₁ fun a₁ => bind p₂ fun a₂ => pure (a₁,a₂)).action env ∧
    (both p₁ p₂).action env =
      (bind p₁ fun a₁ => bind p₂ fun a₂ => pure (a₁,a₂)).action env ∧
    ∀ {β : Type} (f : α₁ → α₂ → β), (app2 f p₁ p₂).action env =
      (bind p₁ fun a₁ => bind p₂ fun a₂ => pure (f a₁ a₂)).action env :=
  ⟨rfl,rfl,fun _ => map_tuple_action env _ _ _⟩

lemma tuple3_agrees :
    (tuple3 p₁ p₂ p₃).action env =
      (bind p₁ fun a₁ => bind p₂ fun a₂ => bind p₃ fun a₃ => pure (a₁,a₂,a₃)).action env ∧
    (both p₁ (both p₂ p₃)).action env =
      (bind p₁ fun a₁ => bind p₂ fun a₂ => bind p₃ fun a₃ => pure (a₁,a₂,a₃)).action env ∧
    ∀ {β : Type} (f : α₁ → α₂ → α₃ → β), (app3 f p₁ p₂ p₃).action env =
      (bind p₁ fun a₁ => bind p₂ fun a₂ => bind p₃ fun a₃ => pure (f a₁ a₂ a₃)).action env := by
  refine ⟨rfl,?_,fun _ => map_tuple_action env _ _ _⟩
  exact both_tuple_action env _ _ p₁

lemma tuple4_agrees :
    (tuple4 p₁ p₂ p₃ p₄).action env =
      (bind p₁ fun a₁ => bind p₂ fun a₂ => bind p₃ fun a₃ => bind p₄ fun a₄ =>
        pure (a₁,a₂,a₃,a₄)).action env ∧
    (both p₁ (both p₂ (both p₃ p₄))).action env =
      (bind p₁ fun a₁ => bind p₂ fun a₂ => bind p₃ fun a₃ => bind p₄ fun a₄ =>
        pure (a₁,a₂,a₃,a₄)).action env ∧
    ∀ {β : Type} (f : α₁ → α₂ → α₃ → α₄ → β), (app4 f p₁ p₂ p₃ p₄).action env =
      (bind p₁ fun a₁ => bind p₂ fun a₂ => bind p₃ fun a₃ => bind p₄ fun a₄ =>
        pure (f a₁ a₂ a₃ a₄)).action env := by
  have hrest : (both p₂ (both p₃ p₄)).action env = (tuple3 p₂ p₃ p₄).action env :=
    (tuple3_agrees env p₂ p₃ p₄).2.1
  refine ⟨rfl,?_,fun _ => map_tuple_action env _ _ _⟩
  exact (both_action_congr env p₁ hrest).trans (both_tuple_action env _ _ p₁)

lemma tuple5_agrees :
    (tuple5 p₁ p₂ p₃ p₄ p₅).action env =
      (bind p₁ fun a₁ => bind p₂ fun a₂ => bind p₃ fun a₃ => bind p₄ fun a₄ =>
        bind p₅ fun a₅ => pure (a₁,a₂,a₃,a₄,a₅)).action env ∧
    (both p₁ (both p₂ (both p₃ (both p₄ p₅)))).action env =
      (bind p₁ fun a₁ => bind p₂ fun a₂ => bind p₃ fun a₃ => bind p₄ fun a₄ =>
        bind p₅ fun a₅ => pure (a₁,a₂,a₃,a₄,a₅)).action env ∧
    ∀ {β : Type} (f : α₁ → α₂ → α₃ → α₄ → α₅ → β), (app5 f p₁ p₂ p₃ p₄ p₅).action env =
      (bind p₁ fun a₁ => bind p₂ fun a₂ => bind p₃ fun a₃ => bind p₄ fun a₄ =>
        bind p₅ fun a₅ => pure (f a₁ a₂ a₃ a₄ a₅)).action env := by
  have hrest : (both p₂ (both p₃ (both p₄ p₅))).action env = (tuple4 p₂ p₃ p₄ p₅).action env :=
    (tuple4_agrees env p₂ p₃ p₄ p₅).2.1
  refine ⟨rfl,?_,fun _ => map_tuple_action env _ _ _⟩
  exact (both_action_congr env p₁ hrest).trans (both_tuple_action env _ _ p₁)

lemma tuple6_agrees :
    (tuple6 p₁ p₂ p₃ p₄ p₅ p₆).action env =
      (bind p₁ fun a₁ => bind p₂ fun a₂ => bind p₃ fun a₃ => bind p₄ fun a₄ =>
        bind p₅ fun a₅ => bind p₆ fun a₆ => pure (a₁,a₂,a₃,a₄,a₅,a₆)).action env ∧
    (both p₁ (both p₂ (both p₃ (both p₄ (both p₅ p₆))))).action env =
      (bind p₁ fun a₁ => bind p₂ fun a₂ => bind p₃ fun a₃ => bind p₄ fun a₄ =>
        bind p₅ fun a₅ => bind p₆ fun a₆ => pure (a₁,a₂,a₃,a₄,a₅,a₆)).action env ∧
    ∀ {β : Type} (f : α₁ → α₂ → α₃ → α₄ → α₅ → α₆ → β), (app6 f p₁ p₂ p₃ p₄ p₅ p₆).action env =
      (bind p₁ fun a₁ => bind p₂ fun a₂ => bind p₃ fun a₃ => bind p₄ fun a₄ =>
        bind p₅ fun a₅ => bind p₆ fun a₆ => pure (f a₁ a₂ a₃ a₄ a₅ a₆)).action env := by
  have hrest : (both p₂ (both p₃ (both p₄ (both p₅ p₆)))).action env =
      (tuple5 p₂ p₃ p₄ p₅ p₆).action env :=
    (tuple5_agrees env p₂ p₃ p₄ p₅ p₆).2.1
  refine ⟨rfl,?_,fun _ => map_tuple_action env _ _ _⟩
  exact (both_action_congr env p₁ hrest).trans (both_tuple_action env _ _ p₁)

/-- Parsers in a list are the chain of parsers that go on from each other and collect the values,
and parsers in two lists, one after the other, are those of both lists in a row. Up to six parsers
in a tuple, one alone included, are the chain that puts the values into the tuple, and so are pairs
in pairs. Up to six parsers under a function are the chain that applies the function to the values.
They are the same on every state and input, from event to event. -/
theorem sequences_agree (ps qs : List (Parser ρ σ τ ε Γ α)) :
    (seq ps).action env = (chain ps).action env ∧
    (seq (ps ++ qs)).action env =
      (map (fun (xs,ys) => xs ++ ys) (both (seq ps) (seq qs))).action env ∧
    ((tuple1 p₁).action env = (bind p₁ fun a₁ => pure a₁).action env ∧
     p₁.action env = (bind p₁ fun a₁ => pure a₁).action env ∧
     ∀ {β : Type} (f : α₁ → β),
       (app1 f p₁).action env = (bind p₁ fun a₁ => pure (f a₁)).action env) ∧
    ((tuple2 p₁ p₂).action env =
       (bind p₁ fun a₁ => bind p₂ fun a₂ => pure (a₁,a₂)).action env ∧
     (both p₁ p₂).action env =
       (bind p₁ fun a₁ => bind p₂ fun a₂ => pure (a₁,a₂)).action env ∧
     ∀ {β : Type} (f : α₁ → α₂ → β), (app2 f p₁ p₂).action env =
       (bind p₁ fun a₁ => bind p₂ fun a₂ => pure (f a₁ a₂)).action env) ∧
    ((tuple3 p₁ p₂ p₃).action env =
       (bind p₁ fun a₁ => bind p₂ fun a₂ => bind p₃ fun a₃ => pure (a₁,a₂,a₃)).action env ∧
     (both p₁ (both p₂ p₃)).action env =
       (bind p₁ fun a₁ => bind p₂ fun a₂ => bind p₃ fun a₃ => pure (a₁,a₂,a₃)).action env ∧
     ∀ {β : Type} (f : α₁ → α₂ → α₃ → β), (app3 f p₁ p₂ p₃).action env =
       (bind p₁ fun a₁ => bind p₂ fun a₂ => bind p₃ fun a₃ => pure (f a₁ a₂ a₃)).action env) ∧
    ((tuple4 p₁ p₂ p₃ p₄).action env =
       (bind p₁ fun a₁ => bind p₂ fun a₂ => bind p₃ fun a₃ => bind p₄ fun a₄ =>
         pure (a₁,a₂,a₃,a₄)).action env ∧
     (both p₁ (both p₂ (both p₃ p₄))).action env =
       (bind p₁ fun a₁ => bind p₂ fun a₂ => bind p₃ fun a₃ => bind p₄ fun a₄ =>
         pure (a₁,a₂,a₃,a₄)).action env ∧
     ∀ {β : Type} (f : α₁ → α₂ → α₃ → α₄ → β), (app4 f p₁ p₂ p₃ p₄).action env =
       (bind p₁ fun a₁ => bind p₂ fun a₂ => bind p₃ fun a₃ => bind p₄ fun a₄ =>
         pure (f a₁ a₂ a₃ a₄)).action env) ∧
    ((tuple5 p₁ p₂ p₃ p₄ p₅).action env =
       (bind p₁ fun a₁ => bind p₂ fun a₂ => bind p₃ fun a₃ => bind p₄ fun a₄ =>
         bind p₅ fun a₅ => pure (a₁,a₂,a₃,a₄,a₅)).action env ∧
     (both p₁ (both p₂ (both p₃ (both p₄ p₅)))).action env =
       (bind p₁ fun a₁ => bind p₂ fun a₂ => bind p₃ fun a₃ => bind p₄ fun a₄ =>
         bind p₅ fun a₅ => pure (a₁,a₂,a₃,a₄,a₅)).action env ∧
     ∀ {β : Type} (f : α₁ → α₂ → α₃ → α₄ → α₅ → β), (app5 f p₁ p₂ p₃ p₄ p₅).action env =
       (bind p₁ fun a₁ => bind p₂ fun a₂ => bind p₃ fun a₃ => bind p₄ fun a₄ =>
         bind p₅ fun a₅ => pure (f a₁ a₂ a₃ a₄ a₅)).action env) ∧
    ((tuple6 p₁ p₂ p₃ p₄ p₅ p₆).action env =
       (bind p₁ fun a₁ => bind p₂ fun a₂ => bind p₃ fun a₃ => bind p₄ fun a₄ =>
         bind p₅ fun a₅ => bind p₆ fun a₆ => pure (a₁,a₂,a₃,a₄,a₅,a₆)).action env ∧
     (both p₁ (both p₂ (both p₃ (both p₄ (both p₅ p₆))))).action env =
       (bind p₁ fun a₁ => bind p₂ fun a₂ => bind p₃ fun a₃ => bind p₄ fun a₄ =>
         bind p₅ fun a₅ => bind p₆ fun a₆ => pure (a₁,a₂,a₃,a₄,a₅,a₆)).action env ∧
     ∀ {β : Type} (f : α₁ → α₂ → α₃ → α₄ → α₅ → α₆ → β), (app6 f p₁ p₂ p₃ p₄ p₅ p₆).action env =
       (bind p₁ fun a₁ => bind p₂ fun a₂ => bind p₃ fun a₃ => bind p₄ fun a₄ =>
         bind p₅ fun a₅ => bind p₆ fun a₆ => pure (f a₁ a₂ a₃ a₄ a₅ a₆)).action env) :=
  ⟨seq_agrees env ps,seq_append_agrees env ps qs,tuple1_agrees env p₁,tuple2_agrees env p₁ p₂,
    tuple3_agrees env p₁ p₂ p₃,tuple4_agrees env p₁ p₂ p₃ p₄,tuple5_agrees env p₁ p₂ p₃ p₄ p₅,
    tuple6_agrees env p₁ p₂ p₃ p₄ p₅ p₆⟩

end

end Backtrack.Parser
