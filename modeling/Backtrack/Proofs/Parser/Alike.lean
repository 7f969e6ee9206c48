import Backtrack.Parser.Combinators
import Mathlib.Data.Fin.Tuple.Basic
import Mathlib.Data.List.Forall2
import Mathlib.Tactic.Common

/-!
Parsers that are built in the same way. Two parsers are alike over a basis if they are put together
by the same combinators from leaves that the basis pairs, and if what is done with values, in
functions, predicates and continuations, takes values that correspond to values that correspond.
-/
namespace Backtrack

variable {ρ : Rules} {σ σ' τ ε : Type}

/-- How the values of placeholders correspond. -/
abbrev Ties (Γ : List Type) := (α : Type) → Slot Γ α → α → α → Prop

def Ties.nil : Ties [] := fun _ slot => nomatch slot

def Ties.cons {Γ : List Type} {α : Type} (R : α → α → Prop) (ties : Ties Γ) : Ties (α :: Γ)
  | _, .here => R
  | _, .there slot => ties _ slot

/-- What two parsers over states `σ` and `σ'` are built from. -/
structure Basis (ρ : Rules) (σ σ' τ ε : Type) where
  /-- Parsers that are paired as they stand, and how their values correspond. -/
  leaf : {Γ : List Type} → {α : Type} → (α → α → Prop) →
    Parser ρ σ τ ε Γ α → Parser ρ σ' τ ε Γ α → Prop
  errors : ε → ε → Prop
  /-- How the values of rules correspond. -/
  outs : (name : ρ.Name) → ρ.Out name → ρ.Out name → Prop
  /-- Tokens may be rewound while the state is kept. -/
  rewinds : Prop

/-- The parsers are built in the same way, and their values correspond by the relation. -/
inductive Parser.Alike (b : Basis ρ σ σ' τ ε) : {Γ : List Type} → Ties Γ → {α : Type} →
    (α → α → Prop) → Parser ρ σ τ ε Γ α → Parser ρ σ' τ ε Γ α → Prop
  | leaf {Γ} {ties : Ties Γ} {α} {R : α → α → Prop} {p p'} (h : b.leaf R p p') : Alike b ties R p p'
  | pure {Γ} {ties : Ties Γ} {α} {R : α → α → Prop} {x x' : α} (h : R x x') :
      Alike b ties R (.pure x) (.pure x')
  | zero {Γ} {ties : Ties Γ} {α} {R : α → α → Prop} : Alike b ties R .zero .zero
  | error {Γ} {ties : Ties Γ} {α} {R : α → α → Prop} {e e' : ε} (h : b.errors e e') :
      Alike b ties R (.error e) (.error e')
  | fault {Γ} {ties : Ties Γ} {α} {R : α → α → Prop} {reason : Fault}
      (h : ∀ offset, reason ≠ .stalled offset) : Alike b ties R (.fault reason) (.fault reason)
  | map {Γ} {ties : Ties Γ} {α β} {R : α → α → Prop} {S : β → β → Prop} {f f' : α → β} {p p'}
      (hf : ∀ x y, R x y → S (f x) (f' y)) (h : Alike b ties R p p') :
      Alike b ties S (.map f p) (.map f' p')
  | bind {Γ} {ties : Ties Γ} {α β} {R : α → α → Prop} {S : β → β → Prop} {p p'}
      {next next' : α → Parser _ _ _ _ Γ β} (h : Alike b ties R p p')
      (hnext : ∀ x y, R x y → Alike b ties S (next x) (next' y)) :
      Alike b ties S (.bind p next) (.bind p' next')
  | check {Γ} {ties : Ties Γ} {α} {R : α → α → Prop} {accept accept' : α → Bool} {p p'}
      (haccept : ∀ x y, R x y → accept x = accept' y) (h : Alike b ties R p p') :
      Alike b ties R (.check accept p) (.check accept' p')
  | tuple {Γ} {ties : Ties Γ} {n} {types : Fin n → Type} {β} {S : β → β → Prop} {parts parts'}
      {make make' : ((k : Fin n) → types k) → β} (R : (k : Fin n) → types k → types k → Prop)
      (h : ∀ k, Alike b ties (R k) (parts k) (parts' k))
      (hmake : ∀ x y, (∀ k, R k (x k) (y k)) → S (make x) (make' y)) :
      Alike b ties S (.tuple n types parts make) (.tuple n types parts' make')
  | sequence {Γ} {ties : Ties Γ} {α} {R : α → α → Prop} {n} {parts parts'}
      (h : ∀ k, Alike b ties R (parts k) (parts' k)) :
      Alike b ties (List.Forall₂ R) (.sequence n parts) (.sequence n parts')
  | plus {Γ} {ties : Ties Γ} {α} {R : α → α → Prop} {p p' q q'} (hp : Alike b ties R p p')
      (hq : Alike b ties R q q') : Alike b ties R (.plus p q) (.plus p' q')
  | choice {Γ} {ties : Ties Γ} {α} {R : α → α → Prop} {n} {parts parts'}
      (h : ∀ k, Alike b ties R (parts k) (parts' k)) :
      Alike b ties R (.choice n parts) (.choice n parts')
  | many0 {Γ} {ties : Ties Γ} {α} {R : α → α → Prop} {p p'} (h : Alike b ties R p p') :
      Alike b ties (List.Forall₂ R) (.many0 p) (.many0 p')
  | maybe {Γ} {ties : Ties Γ} {α} {R : α → α → Prop} {p p'} (h : Alike b ties R p p') :
      Alike b ties (Option.Rel R) (.maybe p) (.maybe p')
  | not0 {Γ} {ties : Ties Γ} {α} {R : α → α → Prop} {p p'} (h : Alike b ties R p p') :
      Alike b ties Eq (.not0 p) (.not0 p')
  | lookahead {Γ} {ties : Ties Γ} {α} {R : α → α → Prop} {p p'} (hrewinds : b.rewinds)
      (h : Alike b ties R p p') : Alike b ties R (.lookahead p) (.lookahead p')
  | commit {Γ} {ties : Ties Γ} {α} {R : α → α → Prop} {e e' : ε} {p p'} (he : b.errors e e')
      (h : Alike b ties R p p') : Alike b ties R (.commit e p) (.commit e' p')
  | catchError {Γ} {ties : Ties Γ} {α} {R : α → α → Prop} {p p'}
      {handler handler' : ε → Parser _ _ _ _ Γ α} (h : Alike b ties R p p')
      (hhandler : ∀ e e', b.errors e e' → Alike b ties R (handler e) (handler' e')) :
      Alike b ties R (.catchError p handler) (.catchError p' handler')
  | mapError {Γ} {ties : Ties Γ} {α} {R : α → α → Prop} {f f' : ε → ε} {p p'}
      (hf : ∀ e e', b.errors e e' → b.errors (f e) (f' e')) (h : Alike b ties R p p') :
      Alike b ties R (.mapError f p) (.mapError f' p')
  | recursive {Γ} {ties : Ties Γ} {α} {R : α → α → Prop} {body body'}
      (h : Alike b (ties.cons R) R body body') :
      Alike b ties R (.recursive body) (.recursive body')
  | placeholder {Γ} {ties : Ties Γ} {α} (slot : Slot Γ α) :
      Alike b ties (ties α slot) (.placeholder slot) (.placeholder slot)
  | rule {Γ} {ties : Ties Γ} (name : ρ.Name) :
      Alike b ties (b.outs name) (.rule name) (.rule name)
  /-- Values that correspond closely also correspond loosely. -/
  | weaken {Γ} {ties : Ties Γ} {α} {R S : α → α → Prop} {p p'} (h : Alike b ties R p p')
      (hR : ∀ x y, R x y → S x y) : Alike b ties S p p'

lemma Parser.Alike.both {b : Basis ρ σ σ' τ ε} {Γ : List Type} {ties : Ties Γ} {α β : Type}
    {R : α → α → Prop} {S : β → β → Prop} {p : Parser ρ σ τ ε Γ α} {p' : Parser ρ σ' τ ε Γ α}
    {q : Parser ρ σ τ ε Γ β} {q' : Parser ρ σ' τ ε Γ β} (hp : Alike b ties R p p')
    (hq : Alike b ties S q q') :
    Alike b ties (fun x y => R x.1 y.1 ∧ S x.2 y.2) (.both p q) (.both p' q') := 
  .tuple (Fin.cons R (Fin.cons S finZeroElim)) (Fin.forall_fin_two.mpr ⟨hp,hq⟩)
    fun _ _ h => ⟨h 0,h 1⟩

/-- The grammars define all their rules alike. -/
def Grammar.Alike (b : Basis ρ σ σ' τ ε) (G : Grammar ρ σ τ ε) (G' : Grammar ρ σ' τ ε) : Prop :=
  ∀ name, Parser.Alike b Ties.nil (b.outs name) (G name) (G' name)

inductive Env.Alike (b : Basis ρ σ σ' τ ε) : {Γ : List Type} → Ties Γ →
    Env ρ σ τ ε Γ → Env ρ σ' τ ε Γ → Prop
  | empty {ties : Ties []} : Alike b ties .empty .empty
  | define {Γ} {ties : Ties Γ} {α : Type} {R : α → α → Prop} {body body'} {outer outer'}
      (hbody : Parser.Alike b (ties.cons R) R body body') (houter : Alike b ties outer outer') :
      Alike b (ties.cons R) (.define body outer) (.define body' outer')

inductive Callee.Alike (b : Basis ρ σ σ' τ ε) : {α : Type} → (α → α → Prop) →
    Callee ρ σ τ ε α → Callee ρ σ' τ ε α → Prop
  | defined {Γ} {ties : Ties Γ} {α : Type} {R : α → α → Prop} {body body'} {outer outer'}
      (hbody : Parser.Alike b (ties.cons R) R body body') (houter : Env.Alike b ties outer outer') :
      Alike b R (.defined body outer) (.defined body' outer')
  | rule (name : ρ.Name) : Alike b (b.outs name) (.rule name) (.rule name)

lemma Env.Alike.callee {b : Basis ρ σ σ' τ ε} {Γ : List Type} {ties : Ties Γ}
    {env : Env ρ σ τ ε Γ} {env' : Env ρ σ' τ ε Γ} (henv : Env.Alike b ties env env') {α : Type}
    (slot : Slot Γ α) : Callee.Alike b (ties α slot) (env.callee slot) (env'.callee slot) := by
  induction henv with
  | empty => exact nomatch slot
  | define hbody houter ih =>
    cases slot with
    | here => exact .defined hbody houter
    | there slot => exact ih slot

end Backtrack
