import Backtrack.Fault
import Mathlib.Tactic.Common

/-!
Computations that a fault may stop. A counter stops only by an overflow, and it counts a whole list
if it stays below its limit.
-/
namespace Backtrack

variable {ε α β : Type} {x : Except ε α}

lemma eq_error_of_map {f : α → β} {e : ε} (h : x.map f = .error e) : x = .error e := by
  cases x with
  | ok a => cases h
  | error e =>
    cases h
    rfl

lemma bind_eq_ok_iff {f : α → Except ε β} {b : β} :
    x >>= f = .ok b ↔ ∃ a, x = .ok a ∧ f a = .ok b := by
  cases x with
  | ok a =>
    show f a = .ok b ↔ _
    simp
  | error e =>
    show Except.error e = .ok b ↔ _
    simp

lemma foldlM_ok (front : List α) (b : β) :
    front.foldlM (fun b _ => .ok b) b = (.ok b : Except ε β) := by
  induction front with
  | nil => rfl
  | cons a front ih => exact ih

variable {limit n : ℕ}

lemma checkedSucc_error {reason : Fault} (h : checkedSucc limit n = .error reason) :
    reason = .overflow := by
  rw [checkedSucc] at h
  split at h <;> simp_all

lemma foldlM_checkedSucc_of_lt {front : List α} (h : n + front.length < limit) :
    front.foldlM (fun n _ => checkedSucc limit n) n = .ok (n + front.length) := by
  induction front generalizing n with
  | nil => rfl
  | cons a front ih =>
    rw [List.length_cons] at h
    have hnext : n + 1 < limit := by omega
    have hrest : n + 1 + front.length < limit := by omega
    rw [List.foldlM_cons,checkedSucc_of_lt hnext,List.length_cons,Nat.add_comm front.length,
      ← Nat.add_assoc]
    exact ih hrest

end Backtrack
