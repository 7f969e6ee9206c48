import Backtrack.Braces.Grammar
import Backtrack.Process.Meets

/-!
The grammar of braces always comes to an end: a form calls itself only behind an opening brace, and
every form that succeeds has consumed a token.
-/
namespace Backtrack.Braces.Grammar

variable {Γ : List Type}

/-- The definitions around a brace parser. -/
abbrev BraceEnv (Γ : List Type) := Env Rules.none OpenBraces Located Mismatch Γ

open Backtrack.Process (Meets)
open Backtrack.Action

/-- A pair ends if its left part does, and its right part on what the left one leaves. -/
theorem both_leaves {α β : Type} {p : BraceParser Γ α} {q : BraceParser Γ β} {env : BraceEnv Γ}
    {s : OpenBraces} {i : Stream Located} {m n : Nat}
    (h : (p.action env s i).Meets Grammar.none (Reply.Leaves n))
    (hq : ∀ s' i', i'.length < n →
      (q.action env s' i').Meets Grammar.none (Reply.Leaves m)) :
    ((Parser.both p q).action env s i).Meets Grammar.none (Reply.Leaves m) := by
  show (((p.action env).bind fun x => (q.action env).bind fun y => Action.pure (x, y)) s i).Meets
    Grammar.none (Reply.Leaves m)
  exact bind_leaves h fun _ _ _ hi => bind_leaves (hq _ _ hi) fun _ _ _ hj => pure_leaves _ hj

theorem literalBy_leaves (c : Char) (env : BraceEnv Γ) (s : OpenBraces) (i : Stream Located) :
    ((tokens.literalBy Located.sameChar (brace c)).action env s i).Meets Grammar.none
      (Reply.Leaves i.length) :=
  check_leaves item_leaves

theorem opening_leaves (env : BraceEnv Γ) (s : OpenBraces) (i : Stream Located) :
    (opening.action env s i).Meets Grammar.none (Reply.Leaves i.length) :=
  andThen_leaves (literalBy_leaves _ env s i) fun _ hr =>
    map_leaves (both_leaves (updateState_leaves _ hr) fun _ _ hi => pure_leaves _ hi)

theorem closing_leaves (env : BraceEnv Γ) (s : OpenBraces) (i : Stream Located) :
    (closing.action env s i).Meets Grammar.none (Reply.Leaves i.length) := by
  refine andThen_leaves (literalBy_leaves _ env s i) fun r hr => ?_
  refine andThen_leaves (getState_leaves hr) fun q hq => ?_
  cases h : q.value.pop? with
  | some outer =>
    simp only [h]
    exact map_leaves (both_leaves (putState_leaves _ hq) fun _ _ hi => pure_leaves _ hi)
  | none =>
    simp only [h]
    exact error_leaves _

theorem normal_leaves (env : BraceEnv Γ) (s : OpenBraces) (i : Stream Located) :
    (normal.action env s i).Meets Grammar.none (Reply.Leaves i.length) := by
  refine map_leaves (both_leaves (n := i.length + 1) ?_ fun s' i' hi => ?_)
  · exact not0_leaves (plus_leaves (opening_leaves env s i) (closing_leaves env s i))
      (Nat.lt_succ_self _)
  · exact item_leaves.mono fun _ hr => Reply.Leaves.mono hr (Nat.le_of_lt_succ hi)

/-- A block ends if the form inside it does on everything shorter. -/
theorem block_leaves {inner : BraceParser Γ Form} (env : BraceEnv Γ) (s : OpenBraces)
    (i : Stream Located)
    (h : ∀ s' i', i'.length < i.length →
      (inner.action env s' i').Meets Grammar.none (Reply.Leaves i'.length)) :
    ((block inner).action env s i).Meets Grammar.none (Reply.Leaves i.length) := by
  refine andThen_leaves (opening_leaves env s i) fun r hr => map_leaves ?_
  refine both_leaves (n := r.rest.length + 1) ?_ fun s' i' hi => ?_
  · exact many0From_leaves [] r.state r.rest fun s' i' hi => h s' i' (by omega)
  · exact (commit_leaves (closing_leaves env s' i')).mono fun _ hq => Reply.Leaves.mono hq (by omega)

theorem formBody_leaves (env : BraceEnv Γ) (s : OpenBraces) (i : Stream Located) :
    (formBody.action (.define formBody env) s i).Meets Grammar.none (Reply.Leaves i.length) :=
  plus_leaves (map_leaves (normal_leaves _ s i))
    (block_leaves _ s i fun s' i' _ =>
      Meets.call (formBody_leaves env s' i') fun _ hr => .done hr)
termination_by i.length

theorem form_leaves (env : BraceEnv Γ) (s : OpenBraces) (i : Stream Located) :
    (form.action env s i).Meets Grammar.none (Reply.Leaves i.length) :=
  formBody_leaves env s i

theorem document_leaves (env : BraceEnv Γ) (s : OpenBraces) (i : Stream Located) :
    (document.action env s i).Meets Grammar.none (Reply.Leaves (i.length + 1)) :=
  many0From_leaves [] s i fun s' i' _ => form_leaves env s' i'

end Backtrack.Braces.Grammar
