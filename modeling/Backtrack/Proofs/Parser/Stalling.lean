import Backtrack.Proofs.Parser.Derived
import Backtrack.Proofs.Parser.Repetition
import Backtrack.Proofs.Process.Choices

/-!
Repetitions that no failure ends. A repetition succeeds only when its part fails, so one of a part
that never fails cannot succeed. It cannot go on forever either, since each of its rounds has to
shorten the input: in the end a round breaks it off, by an error or a fault, if only by not
consuming.
-/
namespace Backtrack

variable {ρ : Rules} {σ τ ε : Type} {α β : Type} {G : Grammar ρ σ τ ε} {s : σ} {i : Stream τ}

/-- The process comes to an end, with a fault or with an error as its only answer. -/
def Process.Breaks (G : Grammar ρ σ τ ε) (p : Process (Callee ρ σ τ ε) σ τ ε (Reply σ τ ε α)) :
    Prop :=
  p.config.Halts G ∧ ∀ reply, p.Gives G (.ok reply) → ∃ e, reply = .error e

namespace Action

variable {a other : Action (Callee ρ σ τ ε) σ τ ε α}

/-- The action answers no state and no input with a failure. -/
def NeverFails (G : Grammar ρ σ τ ε) (a : Action (Callee ρ σ τ ε) σ τ ε α) : Prop :=
  ∀ s i, ¬ (a s i).Gives G (.ok .failure)

lemma pure_neverFails (value : α) :
    (pure value : Action (Callee ρ σ τ ε) σ τ ε α).NeverFails G := by
  intro s i h
  cases Process.gives_done.mp h

lemma error_neverFails (payload : ε) :
    (error payload : Action (Callee ρ σ τ ε) σ τ ε α).NeverFails G := by
  intro s i h
  cases Process.gives_done.mp h

lemma many0_neverFails (a : Action (Callee ρ σ τ ε) σ τ ε α) : a.many0.NeverFails G := by
  intro s i h
  obtain ⟨_,_,_,-,hexit⟩ := many0_gives_iff.mp h
  cases hexit

lemma NeverFails.announcing (h : a.NeverFails G) (event : Stream τ → Event) :
    (a.announcing event).NeverFails G :=
  fun s i hgives => h s i (Process.gives_emit.mp hgives)

/-- What is tried after a failure has the last word. -/
lemma NeverFails.orElse (h : other.NeverFails G) : (a.orElse other).NeverFails G :=
  fun s i hgives => h s i (orElse_gives_failure.mp hgives).2

/-- The rounds shorten the input until one of them decides, and none decides by a failure. -/
lemma NeverFails.many0_breaks (h : a.NeverFails G) (halts : ∀ s i, (a s i).config.Halts G) :
    (a.many0 s i).Breaks G := by
  have hround : ∀ s i, ∃ result, (a s i).Gives G result :=
    fun s i => Process.halts_iff_gives.mp (halts s i)
  constructor
  · obtain ⟨rounds,t,j,hchain,hexit⟩ := exists_chain_exit hround _ s i rfl
    obtain ⟨result,hlast⟩ := hexit (rounds.map (·.value))
    exact Process.halts_iff_gives.mpr ⟨result,many0_gives_iff.mpr ⟨_,t,j,hchain,hlast⟩⟩
  · intro reply hreply
    obtain ⟨_,t,j,-,hexit⟩ := many0_gives_iff.mp hreply
    cases hexit with
    | failure last => exact absurd last (h t j)
    | error => exact ⟨_,rfl⟩

/-- Nothing goes on after an action that breaks off. -/
lemma andThen_breaks {next : Parsed σ τ α → Process (Callee ρ σ τ ε) σ τ ε (Reply σ τ ε β)}
    (h : (a s i).Breaks G) : (a.andThen next s i).Breaks G := by
  obtain ⟨hhalts,hreply⟩ := h
  constructor
  · obtain ⟨result,hresult⟩ := Process.halts_iff_gives.mp hhalts
    apply Process.halts_iff_gives.mpr
    cases result with
    | error reason => exact ⟨_,hresult.bind_fault⟩
    | ok reply =>
      obtain ⟨e,rfl⟩ := hreply _ hresult
      exact ⟨_,hresult.bind (Process.gives_done.mpr rfl)⟩
  · intro answer hanswer
    rcases Process.gives_bind.mp hanswer with ⟨reply,ha,hnext⟩ | ⟨_,-,hfault⟩
    · obtain ⟨e,rfl⟩ := hreply _ ha
      exact ⟨e,Except.ok.inj (Process.gives_done.mp hnext)⟩
    · cases hfault

end Action

namespace Parser

variable {Γ : List Type} {env : Env ρ σ τ ε Γ}

variable (G env) in
/-- If a parser never fails and ends on every state and input, its repetition ends with an error or
a fault on each of them, whether or not a first round is asked for. Repetitions, optional parsers,
parsers whose failure is an error and values in place never fail, whatever their parts do. -/
theorem repetition_breaks :
    (∀ {α} (q : Parser ρ σ τ ε Γ α), (q.action env).NeverFails G →
      (∀ s i, (q.action env s i).config.Halts G) → ∀ s i,
      ((many0 q).action env s i).Breaks G ∧ ((many1 q).action env s i).Breaks G) ∧
    ∀ {α} (p : Parser ρ σ τ ε Γ α) (value : α) (e : ε),
      ((many0 p).action env).NeverFails G ∧ ((optional p value).action env).NeverFails G ∧
      ((maybe p).action env).NeverFails G ∧ ((commit e p).action env).NeverFails G ∧
      ((pure value : Parser ρ σ τ ε Γ α).action env).NeverFails G := by
  constructor
  · intro α q hq halts s i
    have hmany : ((q.action env).many0 s i).Breaks G := hq.many0_breaks halts
    refine ⟨?_,?_⟩
    · rwa [many0_action]
    · rw [many1_action]
      exact Action.andThen_breaks hmany
  · intro α p value e
    refine ⟨?_,?_,?_,?_,?_⟩
    · rw [many0_action]
      exact Action.many0_neverFails _
    · rw [optional_action]
      exact ((Action.pure_neverFails value).announcing _).orElse
    · rw [maybe_action]
      exact (Action.pure_neverFails _).orElse
    · rw [commit_action]
      exact ((Action.error_neverFails e).announcing _).orElse
    · rw [pure_action]
      exact Action.pure_neverFails value

/-- Two rounds consume, and the third one stalls behind them. -/
theorem repetition_breaks_of_maybe :
    let q : Parser Rules.none Unit Char ℕ [] (Option Char) := .maybe .item
    let i : Stream Char := .ofList 0 ['a','b']
    (q.action .empty).NeverFails .none ∧ (∀ s i, (q.action .empty s i).config.Halts .none) ∧
      ((many0 q).action .empty () i).Breaks .none ∧ ((many1 q).action .empty () i).Breaks .none ∧
      ((many0 q).action .empty () i).Gives .none (.error (.stalled 2)) := by
  intro q i
  obtain ⟨hbreaks,hnever⟩ := @repetition_breaks Rules.none Unit Char ℕ .none [] .empty
  have hq : (q.action .empty).NeverFails .none := (hnever .item 'a' 0).2.2.1
  have halts : ∀ s i, (q.action .empty s i).config.Halts .none := fun s i =>
    (Action.orElse_leaves (Action.map_leaves (Action.item_leaves.mono fun _ h =>
      h.mono (Nat.le_succ _))) (Action.pure_leaves none (Nat.lt_succ_self i.length))).halts
  have hfirst : (q.action .empty () i).Gives .none (.ok (.success ⟨(),i.advance 1,some 'a'⟩)) :=
    Process.gives_iff_follow.mpr ⟨0,[.item 0],rfl⟩
  have hsecond : (q.action .empty () (i.advance 1)).Gives .none
      (.ok (.success ⟨(),i.advance 2,some 'b'⟩)) :=
    Process.gives_iff_follow.mpr ⟨0,[.item 1],rfl⟩
  have hthird : (q.action .empty () (i.advance 2)).Gives .none
      (.ok (.success ⟨(),i.advance 2,none⟩)) :=
    Process.gives_iff_follow.mpr ⟨0,[],rfl⟩
  have hstalls : ((many0 q).action .empty () i).Gives .none (.error (.stalled 2)) :=
    Action.many0_gives_iff.mpr ⟨_,(),_,.cons hfirst (by decide) (.cons hsecond (by decide)
      (.nil _ _)),.stalled hthird (Nat.le_refl _)⟩
  obtain ⟨hmany0,hmany1⟩ := hbreaks q hq halts () i
  exact ⟨hq,halts,hmany0,hmany1,hstalls⟩

end Parser
end Backtrack
