import Backtrack.Process.Action
import Mathlib.Tactic.Common

/-!
Equal actions. A plain function can be moved along a sequence and into a tuple, and going on is
associative. A sequence of actions is that of its head and its tail. To choose is associative as
well.
-/
namespace Backtrack.Action

variable {κ : Type → Type 1} {σ τ ε : Type} {α β γ : Type}

variable (a : Action κ σ τ ε α)

theorem map_map (g : α → β) (f : β → γ) : (a.map g).map f = a.map fun x => f (g x) := by
  funext s i
  simp only [map,Process.map,Process.bind_assoc,Process.done_bind]
  congr 1
  funext r
  cases r <;> rfl

/-- Going on from a transformed value. -/
theorem map_then (f : α → β) (next : Parsed σ τ β → Process κ σ τ ε (Reply σ τ ε γ)) :
    (a.map f).andThen next = a.andThen fun r => next (r.map f) := by
  funext s i
  simp only [map,andThen,Process.map,Process.bind_assoc,Process.done_bind]
  congr 1
  funext r
  cases r <;> rfl

theorem map_andThen (next : Parsed σ τ α → Process κ σ τ ε (Reply σ τ ε β)) (f : β → γ) :
    (a.andThen next).map f = a.andThen fun r => (next r).map (·.map (·.map f)) := by
  funext s i
  simp only [map,andThen,Process.map,Process.bind_assoc]
  congr 1
  funext r
  cases r <;> rfl

theorem andThen_done (f : Parsed σ τ α → Parsed σ τ β) :
    (a.andThen fun r => .done (.success (f r))) =
      fun s i => (a s i).map (·.map f) := by
  funext s i
  simp only [andThen,Process.map]
  congr 1
  funext r
  cases r <;> rfl

theorem map_bind (f : α → β) (next : β → Action κ σ τ ε γ) :
    (a.map f).bind next = a.bind fun x => next (f x) := map_then a f _

theorem bind_map (next : α → Action κ σ τ ε β) (f : β → γ) :
    (a.bind next).map f = a.bind fun x => (next x).map f := map_andThen a _ f

theorem bind_assoc (next : α → Action κ σ τ ε β) (last : β → Action κ σ τ ε γ) :
    (a.bind next).bind last = a.bind fun x => (next x).bind last := by
  funext s i
  simp only [bind,andThen,Process.bind_assoc]
  congr 1
  funext r
  cases r <;> rfl

/-- A check that accepts every value changes nothing. -/
theorem map_check_of_accepts {f : α → β} {accept : β → Bool} (h : ∀ x, accept (f x) = true) :
    (a.map f).check accept = a.map f := by
  rw [check,map_then]
  simp only [Parsed.map,h,if_true]
  exact andThen_done a fun r => r.map f

theorem bind_pure : a.bind pure = a := by
  funext s i
  refine (congrFun (congrFun (andThen_done a id) s) i).trans ?_
  have hid : ∀ r : Reply σ τ ε α, r.map id = r := fun r => by cases r <;> rfl
  simp only [Process.map,hid]
  exact Process.bind_done _

/-- To transform a value is to go on from it with its image. -/
theorem map_eq_bind (f : α → β) : a.map f = a.bind fun x => pure (f x) :=
  (andThen_done a fun r => r.map f).symm

/-- A function of what a tuple makes is made by the tuple. -/
theorem map_tuple {n : ℕ} {types : Fin n → Type} (actions : (k : Fin n) → Action κ σ τ ε (types k))
    (make : ((k : Fin n) → types k) → β) (f : β → γ) :
    (tuple n types actions make).map f = tuple n types actions fun values => f (make values) := by
  induction n with
  | zero => rfl
  | succ n ih => simp only [tuple,bind_map,ih]

theorem map_self : (a.map fun x => x) = a := (map_eq_bind a _).trans (bind_pure a)

/-! Sequences. -/

/-- A value put before a list, and then those before it. -/
theorem map_cons_append (c : Action κ σ τ ε (List α)) (before : List α) (x : α) :
    (c.map (x :: ·)).map (before.reverse ++ ·) = c.map ((x :: before).reverse ++ ·) := by
  simp [map_map]

/-- The values before are put before those of the sequence. -/
theorem sequenceFrom_eq (before : List α) (actions : List (Action κ σ τ ε α)) :
    sequenceFrom before actions = (sequence actions).map (before.reverse ++ ·) := by
  induction actions generalizing before with
  | nil =>
    funext s i
    simp [sequence,sequenceFrom,map,pure,Process.map,Outcome.map,Parsed.map]
  | cons a actions ih =>
    rw [sequence,sequenceFrom,sequenceFrom,map_andThen]
    congr 1
    funext r
    rw [ih (r.value :: before),ih [r.value],← map_cons_append]
    rfl

theorem sequence_cons (actions : List (Action κ σ τ ε α)) (c : Action κ σ τ ε α) :
    sequence (c :: actions) = c.bind fun x => (sequence actions).map (x :: ·) := by
  rw [sequence,sequenceFrom]
  simp only [sequenceFrom_eq]
  rfl

theorem sequence_append (actions others : List (Action κ σ τ ε α)) :
    sequence (actions ++ others) = (sequence actions).bind fun xs =>
      (sequence others).map (xs ++ ·) := by
  induction actions with
  | nil => exact (map_self (sequence others)).symm
  | cons c actions ih =>
    rw [List.cons_append,sequence_cons,sequence_cons,bind_assoc,ih]
    simp only [bind_map,map_bind,map_map,List.cons_append]

/-! Choices. -/

/-- What is tried after two failures is tried after the second of them. -/
theorem orElse_assoc (a b c : Action κ σ τ ε α) :
    (a.orElse b).orElse c = a.orElse (b.orElse c) := by
  funext s i
  simp only [orElse,Process.bind_assoc]
  congr 1
  funext r
  cases r <;> rfl

theorem plus_assoc (a b c : Action κ σ τ ε α) : (a.plus b).plus c = a.plus (b.plus c) :=
  orElse_assoc a _ _

end Backtrack.Action
