import Backtrack.Proofs.Itemizer.Tokens

/-!
Given tokens in a row. They are matched one by one, and each is taken before it is compared, so the
state has made its step over a token that is then refused. Nothing of that is seen: under every
policy a string succeeds exactly where the input begins with its tokens, with the state behind them.
-/
namespace Backtrack

variable {ρ : Rules} {σ τ ε : Type}

/-- The tokens begin with the expected ones, as `==` compares a token with an expected one. -/
def Begins [BEq τ] (expected tokens : List τ) : Prop :=
  ∃ front, front <+: tokens ∧ List.Forall₂ (fun x token => (token == x) = true) expected front

section
variable [BEq τ] {expected tokens : List τ}

/-- Where tokens are equal only to themselves, the expected ones are a prefix. -/
lemma begins_iff_isPrefix [LawfulBEq τ] : Begins expected tokens ↔ expected <+: tokens := by
  have heq : (fun x token : τ => (token == x) = true) = Eq := by
    funext x token
    exact propext (beq_iff_eq.trans eq_comm)
  rw [Begins,heq,List.forall₂_eq_eq_eq]
  constructor
  · rintro ⟨_,hstart,rfl⟩
    exact hstart
  · intro hstart
    exact ⟨expected,hstart,rfl⟩

lemma accepted_literals_iff :
    Action.Accepted (expected.map fun x token => token == x) (tokens.take expected.length) ↔
      Begins expected tokens := by
  rw [Action.Accepted,List.forall₂_map_left_iff]
  constructor
  · intro h
    exact ⟨_,List.take_prefix _ _,h⟩
  · rintro ⟨front,hstart,h⟩
    rwa [h.length_eq,← List.prefix_iff_eq_take.mp hstart]

lemma Begins.length_take (h : Begins expected tokens) :
    (tokens.take expected.length).length = expected.length := by
  obtain ⟨front,hstart,hfront⟩ := h
  rw [hfront.length_eq,← List.prefix_iff_eq_take.mp hstart]

end

namespace Itemizer

variable {t : Itemizer ρ σ τ ε} {step : σ → τ → Except Fault σ} {G : Grammar ρ σ τ ε}
  {Γ : List Type} {env : Env ρ σ τ ε Γ} {s u : σ} {i : Stream τ}

lemma Steps.literals_take [BEq τ] (h : t.Steps step) (expected : List τ) :
    List.Forall₂ (Action.Takes G step) (expected.map fun x token => token == x)
      ((expected.map fun x => t.literal x).map fun p => p.action env) := by
  rw [List.map_map,List.forall₂_map_left_iff,List.forall₂_map_right_iff,List.forall₂_same]
  intro x _
  exact h.satisfy_takes _

/-- A string matches the tokens in front of it, if the state can make a step over as many of them. -/
lemma Steps.string_succeedsIff [BEq τ] (h : t.Steps step) {expected : List τ}
    (hstep : (i.remaining.take expected.length).foldlM step s = .ok u) :
    ((t.string expected).action env s i).SucceedsIff G (Begins expected i.remaining)
      ⟨u,i.advance expected.length,expected⟩ := by
  have haction : (t.string expected).action env =
      (Action.sequence ((expected.map fun x => t.literal x).map fun p => p.action env)).map
        fun _ => expected := by
    rw [string,Parser.keepRight_action,Parser.seq_action,Parser.pure_action,Action.map_eq_bind]
  have htakes : List.Forall₂ (Action.Takes G step) _
      ((expected.map fun x => t.literal x).map fun p => p.action env) := h.literals_take expected
  rw [haction]
  refine Process.succeedsIff_of_gives (fun hbegins => ?_) fun hnot => ?_
  · have haccepted := accepted_literals_iff.mpr hbegins
    have hgives := Action.sequenceFrom_accepts htakes haccepted
      (List.take_append_drop expected.length i.remaining).symm hstep []
    rw [hbegins.length_take] at hgives
    exact hgives.map _
  · have hrefused := mt accepted_literals_iff.mp hnot
    refine (Action.sequenceFrom_refuses (t := u) htakes ?_ ?_ []).map _
    · rwa [List.length_map]
    · rwa [List.length_map]

/-- A string succeeds exactly where the input begins with its tokens, under all policies and with
those tokens as its value. It leaves the input behind them, and the state that it found, or that
grew by their number, or the place behind them. Otherwise it fails, as long as the state does not
overflow over as many tokens of the input; it never stops with an error or a fault. -/
theorem string_takes_expected [BEq τ] :
    (∀ (G : Grammar ρ σ τ ε) (env : Env ρ σ τ ε Γ) expected s i,
      ((basic.string expected).action env s i).SucceedsIff G (Begins expected i.remaining)
        ⟨s,i.advance expected.length,expected⟩) ∧
    (∀ (G : Grammar ρ ℕ τ ε) (env : Env ρ ℕ τ ε Γ) expected n i,
      n + (i.remaining.take expected.length).length < countLimit →
      ((count.string expected).action env n i).SucceedsIff G (Begins expected i.remaining)
        ⟨n + expected.length,i.advance expected.length,expected⟩) ∧
    (∀ (G : Grammar ρ Position Char ε) (env : Env ρ Position Char ε Γ) expected p q i,
      (i.remaining.take expected.length).foldlM Position.bump p = .ok q →
      ((position.string expected).action env p i).SucceedsIff G (expected <+: i.remaining)
          ⟨q,i.advance expected.length,expected⟩ ∧
        (expected <+: i.remaining → expected.foldlM Position.bump p = .ok q)) ∧
    (LawfulBEq τ → ∀ expected tokens : List τ, Begins expected tokens ↔ expected <+: tokens) := by
  refine ⟨fun G env expected s i => ?_,fun G env expected n i hn => ?_,
    fun G env expected p q i hq => ⟨?_,fun hstart => ?_⟩,fun _ _ _ => begins_iff_isPrefix⟩
  · exact basic_steps.string_succeedsIff (foldlM_ok _ s)
  · apply (count_steps.string_succeedsIff (foldlM_checkedSucc_of_lt hn)).congr
    intro hbegins
    rw [hbegins.length_take]
  · rw [← begins_iff_isPrefix]
    exact position_steps.string_succeedsIff hq
  · rwa [← List.prefix_iff_eq_take.mp hstart] at hq

/-- A line break is taken with the state behind it, and where another character is expected in its
place, no state is left behind. -/
theorem string_takes_expected_of_lines :
    let i : Stream Char := .ofList 0 ['a','\n','b']
    5 + (i.remaining.take 2).length < countLimit ∧
      (i.remaining.take 2).foldlM Position.bump ⟨4,7⟩ = .ok ⟨5,1⟩ ∧
      ((basic.string ['a','\n'] : Parser Rules.none Unit Char ℕ [] _).action .empty () i).Gives .none
        (.ok (.success ⟨(),i.advance 2,['a','\n']⟩)) ∧
      ((count.string ['a','\n'] : Parser Rules.none ℕ Char ℕ [] _).action .empty 5 i).Gives .none
        (.ok (.success ⟨7,i.advance 2,['a','\n']⟩)) ∧
      ((position.string ['a','\n'] : Parser Rules.none Position Char ℕ [] _).action .empty ⟨4,7⟩
        i).Gives .none (.ok (.success ⟨⟨5,1⟩,i.advance 2,['a','\n']⟩)) ∧
      ((position.string ['a','b'] : Parser Rules.none Position Char ℕ [] _).action .empty ⟨4,7⟩
        i).Gives .none (.ok .failure) := by
  intro i
  have hcount : 5 + (i.remaining.take 2).length < countLimit := by decide
  have hplace : (i.remaining.take 2).foldlM Position.bump ⟨4,7⟩ = .ok ⟨5,1⟩ := by decide
  have hstart : ['a','\n'] <+: i.remaining := by decide
  have hnot : ¬ ['a','b'] <+: i.remaining := by decide
  obtain ⟨hbasic,hcounted,hplaced,hbegins⟩ := @string_takes_expected Rules.none Unit Char ℕ [] _
  have hmatches := (hbegins inferInstance _ _).mpr hstart
  exact ⟨hcount,hplace,(hbasic .none .empty _ () i _).mpr (.inl ⟨hmatches,rfl⟩),
    (hcounted .none .empty ['a','\n'] 5 i hcount _).mpr (.inl ⟨hmatches,rfl⟩),
    ((hplaced .none .empty ['a','\n'] ⟨4,7⟩ ⟨5,1⟩ i hplace).1 _).mpr (.inl ⟨hstart,rfl⟩),
    ((hplaced .none .empty ['a','b'] ⟨4,7⟩ ⟨5,1⟩ i hplace).1 _).mpr (.inr ⟨hnot,rfl⟩)⟩

end Itemizer
end Backtrack
