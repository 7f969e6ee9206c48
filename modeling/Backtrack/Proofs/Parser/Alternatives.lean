import Backtrack.Proofs.Parser.Derived
import Backtrack.Proofs.Process.Choices
import Backtrack.Proofs.Process.Laws

/-!
Alternatives. Each of them begins with the same state and input. Those that fail are passed one
after the other, and the first one that does not fail decides, so it does not matter what stands
behind it, nor how the alternatives are divided into choices.
-/
namespace Backtrack

variable {ρ : Rules} {σ τ ε : Type} {Γ : List Type} {α : Type} {G : Grammar ρ σ τ ε} {s : σ}
  {i : Stream τ}

namespace Action

variable {actions : List (Action (Callee ρ σ τ ε) σ τ ε α)} {events : List Event}
  {result : Except Fault (Reply σ τ ε α)}

variable (G s i) in
/-- Alternatives that all fail. Each of them is reported as passed before the next one runs. -/
inductive Passed : ℕ → List (Action (Callee ρ σ τ ε) σ τ ε α) → List Event → Prop
  | nil (index : ℕ) : Passed index [] []
  | cons {index : ℕ} {a : Action (Callee ρ σ τ ε) σ τ ε α}
      {rest : List (Action (Callee ρ σ τ ε) σ τ ε α)} {own events : List Event}
      (failure : (a s i).Yields G own (.ok .failure)) (tail : Passed (index + 1) rest events) :
      Passed index (a :: rest) (own ++ .altBacktrack index i.offset :: events)

/-- The first alternative that does not fail decides, and only those before it are passed. -/
theorem choiceFrom_yields {index : ℕ} : (choiceFrom index actions s i).Yields G events result ↔
    (∃ before first after passed own, actions = before ++ first :: after ∧
      Passed G s i index before passed ∧ (first s i).Yields G own result ∧
      result ≠ .ok .failure ∧ events = passed ++ own) ∨
    Passed G s i index actions events ∧ result = .ok .failure := by
  induction actions generalizing index events with
  | nil =>
    constructor
    · intro h
      obtain ⟨rfl,rfl⟩ := Process.yields_done.mp h
      exact .inr ⟨.nil index,rfl⟩
    · rintro (⟨before,first,after,_,_,hsplit,-⟩ | ⟨hpassed,rfl⟩)
      · simp at hsplit
      · cases hpassed
        exact .done _
  | cons a rest ih =>
    rw [choiceFrom,orElse_yields]
    constructor
    · rintro (⟨own,later,ha,hlater,rfl⟩ | ⟨ha,hdecided⟩)
      · obtain ⟨events,hrest,rfl⟩ := Process.yields_emit.mp hlater
        rcases ih.mp hrest with ⟨before,first,after,passed,last,rfl,hpassed,hfirst,hdecided,rfl⟩ |
          ⟨hpassed,rfl⟩
        · exact .inl ⟨a :: before,first,after,_,last,rfl,.cons ha hpassed,hfirst,hdecided,by simp⟩
        · exact .inr ⟨.cons ha hpassed,rfl⟩
      · exact .inl ⟨[],a,rest,[],events,rfl,.nil index,ha,hdecided,rfl⟩
    · rintro (⟨before,first,after,_,last,hsplit,hpassed,hfirst,hdecided,rfl⟩ | ⟨hpassed,rfl⟩)
      · cases hpassed with
        | nil =>
          obtain ⟨rfl,rfl⟩ : a = first ∧ rest = after := by simpa using hsplit
          exact .inr ⟨hfirst,hdecided⟩
        | @cons _ _ before own passed failure tail =>
          obtain ⟨rfl,rfl⟩ : a = _ ∧ rest = before ++ first :: after := by simpa using hsplit
          have hrest := ih.mpr (.inl ⟨before,first,after,passed,last,rfl,tail,hfirst,hdecided,rfl⟩)
          exact .inl ⟨own,_,failure,Process.yields_emit.mpr ⟨_,hrest,rfl⟩,by simp⟩
      · cases hpassed with
        | cons failure tail =>
          exact .inl ⟨_,_,failure,Process.yields_emit.mpr ⟨_,ih.mpr (.inr ⟨tail,rfl⟩),rfl⟩,rfl⟩

lemma choiceFrom_gives_failure {index : ℕ} :
    (choiceFrom index actions s i).Gives G (.ok .failure) ↔
      ∀ a ∈ actions, (a s i).Gives G (.ok .failure) := by
  induction actions generalizing index with
  | nil => simpa [choiceFrom,zero] using Process.gives_done.mpr rfl
  | cons a rest ih =>
    rw [choiceFrom,orElse_gives_failure,List.forall_mem_cons]
    exact and_congr_right fun _ => Process.gives_emit.trans ih

/-- Nothing that is done depends on the alternatives behind one that does not fail. -/
lemma choiceFrom_follow {first : Action (Callee ρ σ τ ε) σ τ ε α}
    (h : ¬ (first s i).Gives G (.ok .failure))
    (before after : List (Action (Callee ρ σ τ ε) σ τ ε α)) (index n : ℕ) :
    (choiceFrom index (before ++ first :: after) s i).follow id (G.answers n) =
      (choiceFrom index (before ++ [first]) s i).follow id (G.answers n) := by
  induction before generalizing index with
  | nil =>
    have hfirst := Process.follow_of_not_failure h
    exact (hfirst _ n).trans (hfirst _ n).symm
  | cons a before ih =>
    simp only [List.cons_append,choiceFrom,orElse,Process.follow_bind]
    congr 1
    funext reply
    cases reply with
    | failure => exact congrArg (Trail.noting _) (ih (index + 1))
    | success r => rfl
    | error e => rfl

/-- Several alternatives are a choice between the first one and the others. -/
lemma choiceFrom_same (index : ℕ) (actions : List (Action (Callee ρ σ τ ε) σ τ ε α)) :
    (choiceFrom index actions s i).Same G (actions.foldr plus zero s i) := by
  induction actions generalizing index with
  | nil => exact .refl _
  | cons a rest ih => exact orElse_same (.refl _) (announcing_same (ih (index + 1)))

lemma foldr_plus_append (actions others : List (Action (Callee ρ σ τ ε) σ τ ε α)) :
    ((actions ++ others).foldr plus zero s i).Same G
      ((actions.foldr plus zero).plus (others.foldr plus zero) s i) := by
  induction actions with
  | nil =>
    -- nothing is chosen before the others, which only reports that it was passed
    exact (Process.Same.emit (.plusBacktrack i.offset) fun _ => others.foldr plus zero s i).symm
  | cons a rest ih =>
    rw [List.cons_append,List.foldr_cons,List.foldr_cons,plus_assoc]
    exact plus_same (.refl _) ih

lemma choice_append_same (actions others : List (Action (Callee ρ σ τ ε) σ τ ε α)) :
    (choice (actions ++ others) s i).Same G ((choice actions).plus (choice others) s i) :=
  (choiceFrom_same 0 _).trans ((foldr_plus_append actions others).trans
    (plus_same (choiceFrom_same 0 _).symm (choiceFrom_same 0 _).symm))

end Action

namespace Parser

variable {env : Env ρ σ τ ε Γ}

lemma foldr_plus_action (env : Env ρ σ τ ε Γ) (ps : List (Parser ρ σ τ ε Γ α)) :
    (ps.foldr plus zero).action env = (ps.map fun p => p.action env).foldr .plus .zero := by
  induction ps with
  | nil => rfl
  | cons p ps ih => rw [List.foldr_cons,plus_action,ih,List.map_cons,List.foldr_cons]

variable (G s i) in
/-- Several alternatives come to the end of the first one that does not fail, and report what it
does after those before it, which all fail and are passed. Whether or not that one comes to an end,
nothing of the alternatives behind it is done. They fail exactly if all of them fail. They come to
the results of a choice between the first one and the others, and so on, and where they are divided
into two choices does not matter. The choice between two parsers is associative, from event to
event. -/
theorem alternatives_decide (env : Env ρ σ τ ε Γ) (ps qs : List (Parser ρ σ τ ε Γ α))
    (p q r : Parser ρ σ τ ε Γ α) :
    (∀ events result, ((alt ps).action env s i).config.Ends G ⟨result,events⟩ ↔
      (∃ before first after passed own, ps = before ++ first :: after ∧
        Action.Passed G s i 0 (before.map fun x => x.action env) passed ∧
        (first.action env s i).config.Ends G ⟨result,own⟩ ∧ result ≠ .ok .failure ∧
        events = passed ++ own) ∨
      Action.Passed G s i 0 (ps.map fun x => x.action env) events ∧ result = .ok .failure) ∧
    (∀ (before after : List (Parser ρ σ τ ε Γ α)) first,
      ¬ (first.action env s i).Gives G (.ok .failure) → ∀ n,
      ((alt (before ++ first :: after)).action env s i).follow id (G.answers n) =
        ((alt (before ++ [first])).action env s i).follow id (G.answers n)) ∧
    (((alt ps).action env s i).Gives G (.ok .failure) ↔
      ∀ x ∈ ps, (x.action env s i).Gives G (.ok .failure)) ∧
    ((alt ps).action env s i).Same G ((ps.foldr plus zero).action env s i) ∧
    ((alt (ps ++ qs)).action env s i).Same G ((plus (alt ps) (alt qs)).action env s i) ∧
    (plus (plus p q) r).action env = (plus p (plus q r)).action env := by
  refine ⟨fun events result => ?_,fun before after first h n => ?_,?_,?_,?_,?_⟩
  · rw [alt_action,← Process.yields_iff_ends,Action.choice,Action.choiceFrom_yields]
    apply or_congr_left
    constructor
    · rintro ⟨_,_,_,passed,own,hsplit,hpassed,hfirst,hdecided,rfl⟩
      obtain ⟨before,_,rfl,rfl,htail⟩ := List.map_eq_append_iff.mp hsplit
      obtain ⟨first,after,rfl,rfl,-⟩ := List.map_eq_cons_iff.mp htail
      exact ⟨before,first,after,passed,own,rfl,hpassed,hfirst.ends,hdecided,rfl⟩
    · rintro ⟨before,first,after,passed,own,rfl,hpassed,hfirst,hdecided,rfl⟩
      exact ⟨_,_,_,passed,own,by rw [List.map_append,List.map_cons],hpassed,
        Process.yields_of_ends hfirst,hdecided,rfl⟩
  · simp only [alt_action,List.map_append,List.map_cons,List.map_nil]
    exact Action.choiceFrom_follow h _ _ 0 n
  · rw [alt_action,Action.choice,Action.choiceFrom_gives_failure,List.forall_mem_map]
  · rw [alt_action,foldr_plus_action]
    exact Action.choiceFrom_same 0 _
  · rw [plus_action,alt_action,alt_action,alt_action,List.map_append]
    exact Action.choice_append_same _ _
  · exact Action.plus_assoc _ _ _

/-- An error decides after one alternative was passed, and the last one, which would succeed, is not
run. -/
theorem alternatives_decide_on_commit :
    let letter (c : Char) : Parser Rules.none Unit Char ℕ [] Char := .check (· == c) .item
    let first : Parser Rules.none Unit Char ℕ [] Char := .commit 7 (letter 'b')
    let i : Stream Char := .ofList 0 ['c']
    ¬ (first.action .empty () i).Gives .none (.ok .failure) ∧
      (∀ n, ((alt [letter 'a',first,.item]).action .empty () i).follow id (Grammar.none.answers n) =
        ((alt [letter 'a',first]).action .empty () i).follow id (Grammar.none.answers n)) ∧
      ((alt [letter 'a',first,.item]).action .empty () i).config.Ends .none
        ⟨.ok (.error 7),[.item 0,.altBacktrack 0 0,.item 0,.commitEscalated 0]⟩ := by
  intro letter first i
  have hletter : ((letter 'a').action .empty () i).Yields .none [.item 0] (.ok .failure) :=
    Process.yields_iff_follow.mpr ⟨0,rfl⟩
  have hfirst : (first.action .empty () i).config.Ends .none
      ⟨.ok (.error 7),[.item 0,.commitEscalated 0]⟩ :=
    Process.yields_iff_ends.mp (Process.yields_iff_follow.mpr ⟨0,rfl⟩)
  have hdecided : ¬ (first.action .empty () i).Gives .none (.ok .failure) := by
    intro hfailure
    cases hfailure.unique ⟨_,hfirst⟩
  obtain ⟨hends,hbehind,-⟩ :=
    alternatives_decide .none () i .empty [letter 'a',first,.item] [] first first first
  refine ⟨hdecided,hbehind [letter 'a'] [.item] first hdecided,(hends _ _).mpr (.inl ?_)⟩
  exact ⟨[letter 'a'],first,[.item],_,_,rfl,.cons hletter (.nil 1),hfirst,by simp,rfl⟩

end Parser
end Backtrack
