import Backtrack.Parser.Itemizer
import Backtrack.Proofs.Parser.Alternatives

/-!
A token among several ones. To consume a token once and to ask whether it is a member comes to the
same results as to consume it anew for every member, whatever the way to consume a token does to the
state, and whether it fails, commits to an error or stops with a fault.
-/
namespace Backtrack

variable {ρ : Rules} {σ τ ε : Type} {Γ : List Type} {α ι : Type} {G : Grammar ρ σ τ ε} {s : σ}
  {i : Stream τ}

namespace Action

variable {a : Action (Callee ρ σ τ ε) σ τ ε α}

lemma check_gives {r : Parsed σ τ α} (h : (a s i).Gives G (.ok (.success r))) (accept : α → Bool) :
    (a.check accept s i).Gives G (.ok (if accept r.value then .success r else .failure)) :=
  h.bind (Process.gives_done.mpr rfl)

/-- An action that succeeds is tried under one condition after the other until one is met. -/
lemma choiceFrom_check_gives {r : Parsed σ τ α} (h : (a s i).Gives G (.ok (.success r)))
    (accept : ι → α → Bool) (keys : List ι) (index : ℕ) :
    (choiceFrom index (keys.map fun k => a.check (accept k)) s i).Gives G
      (.ok (if keys.any (accept · r.value) then .success r else .failure)) := by
  induction keys generalizing index with
  | nil => exact Process.gives_done.mpr rfl
  | cons k keys ih =>
    have hfirst := check_gives h (accept k)
    rw [List.map_cons,choiceFrom,List.any_cons]
    by_cases hk : accept k r.value
    · simp only [hk,if_true,Bool.true_or] at hfirst ⊢
      exact hfirst.bind (Process.gives_done.mpr rfl)
    · simp only [hk,Bool.false_eq_true,if_false,Bool.false_or] at hfirst ⊢
      exact hfirst.bind (Process.gives_emit.mpr (ih (index + 1)))

/-- To try an action under one condition after the other is to run it under any of them. -/
theorem choice_check_same (a : Action (Callee ρ σ τ ε) σ τ ε α) (accept : ι → α → Bool)
    {keys : List ι} (h : keys ≠ []) :
    (choice (keys.map fun k => a.check (accept k)) s i).Same G
      (a.check (fun x => keys.any (accept · x)) s i) := by
  obtain ⟨k,keys,rfl⟩ := List.exists_cons_of_ne_nil h
  rw [List.map_cons,choice,choiceFrom,orElse,check,check,andThen,Process.bind_assoc]
  -- what the first alternative is answered, every other one is answered as well
  apply Process.Same.bind_right
  intro reply hreply
  cases reply with
  | error e => exact .refl _
  | failure =>
    have hrest : (choiceFrom 1 (keys.map fun k => a.check (accept k)) s i).Gives G (.ok .failure) :=
      choiceFrom_gives_failure.mpr (List.forall_mem_map.mpr fun _ _ =>
        hreply.bind (Process.gives_done.mpr rfl))
    exact .of_gives (Process.gives_emit.mpr hrest) (Process.gives_done.mpr rfl)
  | success r =>
    have hrest := choiceFrom_check_gives hreply accept keys 1
    simp only [List.any_cons,Process.done_bind]
    by_cases hk : accept k r.value
    · simp only [hk,if_true,Bool.true_or]
      exact .refl _
    · simp only [hk,Bool.false_eq_true,if_false,Bool.false_or]
      exact .of_gives (Process.gives_emit.mpr hrest) (Process.gives_done.mpr rfl)

end Action

namespace Itemizer

variable [BEq τ]

lemma contains_congr {xs ys : List τ} (h : ∀ x, x ∈ xs ↔ x ∈ ys) : xs.contains = ys.contains := by
  funext x
  rw [Bool.eq_iff_iff,List.contains_iff_exists_mem_beq,List.contains_iff_exists_mem_beq]
  exact exists_congr fun y => and_congr_left' (h y)

/-- Where each member has an equal one among others, what is equal to a member is equal to one of
those. -/
lemma contains_of_covered [PartialEquivBEq τ] {xs ys : List τ} (h : ∀ x ∈ xs, ys.contains x) {x : τ}
    (hx : xs.contains x) : ys.contains x := by
  rw [List.contains_iff_exists_mem_beq] at hx ⊢
  obtain ⟨y,hy,hxy⟩ := hx
  obtain ⟨z,hz,hyz⟩ := List.contains_iff_exists_mem_beq.mp (h y hy)
  exact ⟨z,hz,BEq.trans hxy hyz⟩

/-- One of several tokens comes to the results of alternatives with one token each, however a token
is consumed. It depends only on which tokens they are, not on their order or on how often each of
them stands there, and where `==` is lawful, equal tokens may stand for each other. -/
theorem oneOf_agrees (t : Itemizer ρ σ τ ε) (env : Env ρ σ τ ε Γ) {xs : List τ} (h : xs ≠ []) :
    (∀ s i, ((t.oneOf xs).action env s i).Same G
      ((Parser.alt (xs.map fun x => t.literal x)).action env s i)) ∧
    (∀ ys, (∀ x, x ∈ xs ↔ x ∈ ys) → (t.oneOf xs : Parser ρ σ τ ε Γ τ) = t.oneOf ys) ∧
    ∀ [PartialEquivBEq τ] (ys : List τ), (∀ x ∈ xs, ys.contains x) → (∀ y ∈ ys, xs.contains y) →
      (t.oneOf xs : Parser ρ σ τ ε Γ τ) = t.oneOf ys := by
  refine ⟨fun s i => ?_,fun ys hys => ?_,fun ys hxs hys => ?_⟩
  · have hcontains : xs.contains = fun x => xs.any (x == ·) :=
      funext fun x => List.contains_eq_any_beq
    rw [oneOf,satisfy,hcontains,Parser.check_action,Parser.alt_action,List.map_map]
    exact (Action.choice_check_same (t.item.action env) (fun x y => y == x) h).symm
  · rw [oneOf,oneOf,contains_congr hys]
  · have hcontains : xs.contains = ys.contains := funext fun x =>
      Bool.eq_iff_iff.mpr ⟨contains_of_covered hxs,contains_of_covered hys⟩
    rw [oneOf,oneOf,hcontains]

/-- The second of three alternatives takes the token, which is counted once. -/
theorem oneOf_agrees_of_repeated :
    let t : Itemizer Rules.none ℕ Char ℕ := .count
    let i : Stream Char := .ofList 0 ['b']
    let xs := ['a','b','a']
    let ys := ['b','a']
    xs ≠ [] ∧ (∀ x, x ∈ xs ↔ x ∈ ys) ∧ (∀ x ∈ xs, ys.contains x) ∧ (∀ y ∈ ys, xs.contains y) ∧
      ((Parser.alt (xs.map fun x => t.literal x)).action .empty 0 i).Gives .none
        (.ok (.success ⟨1,i.advance 1,'b'⟩)) ∧
      (t.oneOf xs : Parser Rules.none ℕ Char ℕ [] Char) = t.oneOf ys := by
  intro t i xs ys
  have hone : ((t.oneOf xs).action .empty 0 i).Gives .none (.ok (.success ⟨1,i.advance 1,'b'⟩)) :=
    Process.gives_iff_follow.mpr ⟨0,[.item 0],rfl⟩
  have hnil : xs ≠ [] := List.cons_ne_nil _ _
  have htokens : ∀ x, x ∈ xs ↔ x ∈ ys := by
    intro x
    simp only [xs,ys,List.mem_cons,List.not_mem_nil]
    tauto
  obtain ⟨hresults,-,hequal⟩ := oneOf_agrees (G := Grammar.none) t .empty hnil
  have hxs : ∀ x ∈ xs, ys.contains x := fun x hx => List.contains_iff_mem.mpr ((htokens x).mp hx)
  have hys : ∀ y ∈ ys, xs.contains y := fun y hy => List.contains_iff_mem.mpr ((htokens y).mpr hy)
  exact ⟨hnil,htokens,hxs,hys,(hresults 0 i _).mp hone,hequal ys hxs hys⟩

end Itemizer
end Backtrack
