import Backtrack.Parser.Itemizer
import Backtrack.Proofs.Parser.Derived
import Backtrack.Proofs.Parser.Parts
import Backtrack.Proofs.Process.Laws

/-!
Itemizers that follow the tokens. Each of the given policies consumes a raw token and then lets the
state make a step of its own. A grammar over such an itemizer that neither sets the state nor
rewinds tokens ends with the state that the consumed tokens lead to, whatever was tried in between.
-/
namespace Backtrack

variable {ρ : Rules} {σ τ ε : Type}

/-- Consume one token and let the state make a step over it. -/
def Action.itemBy {κ : Type → Type 1} (step : σ → τ → Except Fault σ) : Action κ σ τ ε τ :=
  item.bind fun token => (updateState fun s => step s token).map fun _ => token

namespace Action

variable {κ : Type → Type 1} {step : σ → τ → Except Fault σ} {s : σ} {i : Stream τ} {token : τ}
  {rest : List τ}

lemma itemBy_nil (h : i.remaining = []) :
    (itemBy step s i : Process κ σ τ ε _) = .done .failure := by
  simp [itemBy,bind,andThen,item_nil h]

lemma itemBy_ok {t : σ} (h : i.remaining = token :: rest) (hstep : step s token = .ok t) :
    (itemBy step s i : Process κ σ τ ε _) =
      .emit (.item i.offset) fun _ => .done (.success ⟨t,i.advance 1,token⟩) := by
  simp [itemBy,bind,andThen,item_cons h,Process.bind,map,updateState,hstep,Process.map,Outcome.map,
    Parsed.map]

lemma itemBy_error {reason : Fault} (h : i.remaining = token :: rest)
    (hstep : step s token = .error reason) :
    (itemBy step s i : Process κ σ τ ε _) = .emit (.item i.offset) fun _ => .fault reason := by
  simp [itemBy,bind,andThen,item_cons h,Process.bind,map,updateState,hstep,Process.map]

end Action

namespace Itemizer

/-- The itemizer consumes a raw token and lets the state make a step. -/
def Steps (t : Itemizer ρ σ τ ε) (step : σ → τ → Except Fault σ) : Prop :=
  ∀ {Γ : List Type} (env : Env ρ σ τ ε Γ), t.item.action env = Action.itemBy step

lemma basic_steps : (basic : Itemizer ρ σ τ ε).Steps fun s _ => .ok s :=
  fun _ => (Action.bind_pure Action.item).symm

lemma count_steps : (count : Itemizer ρ ℕ τ ε).Steps fun n _ => checkedSucc countLimit n := by
  intro Γ env
  exact Parser.keepLeft_action env _ _

lemma position_steps : (position : Itemizer ρ Position Char ε).Steps Position.bump := by
  intro Γ env
  simp only [position,Parser.bind_action,Parser.keepRight_action,Action.itemBy,Action.map_eq_bind]
  rfl

/-- The ways to consume through the itemizer and to read state and tokens. -/
inductive Access (t : Itemizer ρ σ τ ε) : {Γ : List Type} → {α : Type} →
    Parser ρ σ τ ε Γ α → Prop
  | item {Γ} : Access t (t.item : Parser ρ σ τ ε Γ τ)
  | get {Γ} : Access t (.get : Parser ρ σ τ ε Γ (Stream τ))
  | getState {Γ} : Access t (.getState : Parser ρ σ τ ε Γ σ)

end Itemizer

/-- The parser consumes only through the itemizer: it is built from its item by all combinators but
those that set the state, set the tokens, or rewind the tokens alone. -/
def Parser.Over (t : Itemizer ρ σ τ ε) {Γ : List Type} {α : Type} (p : Parser ρ σ τ ε Γ α) : Prop :=
  p.BuiltFrom ⟨t.Access,False⟩

namespace Itemizer

variable {t : Itemizer ρ σ τ ε} {Γ : List Type} {α : Type}

lemma satisfy_over (accept : τ → Bool) : (t.satisfy accept : Parser ρ σ τ ε Γ τ).Over t :=
  .check accept (.leaf .item)

lemma seq_over {ps : List (Parser ρ σ τ ε Γ α)} (h : ∀ p ∈ ps, p.Over t) :
    (Parser.seq ps).Over t :=
  .sequence fun k => h _ (by simp)

lemma string_over [BEq τ] (expected : List τ) :
    (t.string expected : Parser ρ σ τ ε Γ (List τ)).Over t :=
  .map Prod.snd (.both (seq_over (List.forall_mem_map.mpr fun _ _ => satisfy_over _))
    (.pure expected))

lemma not1_over {p : Parser ρ σ τ ε Γ α} (hp : p.Over t) : (t.not1 p).Over t :=
  .map Prod.snd (.both (.not0 hp) (.leaf .item))

end Itemizer

/-- The tokens from `i` to `j`, in order. -/
def Stream.Passes (i : Stream τ) (front : List τ) (j : Stream τ) : Prop :=
  i.remaining = front ++ j.remaining ∧ j = i.advance front.length

namespace Itemizer

variable {t : Itemizer ρ σ τ ε} {step : σ → τ → Except Fault σ} {s₀ : σ} {i₀ : Stream τ}

/-- The state is where the tokens passed since the beginning lead to. -/
def Tracked (step : σ → τ → Except Fault σ) (s₀ : σ) (i₀ : Stream τ) (s : σ) (i : Stream τ) :
    Prop :=
  ∃ front, i₀.Passes front i ∧ front.foldlM step s₀ = .ok s

lemma Tracked.next {s s' : σ} {i : Stream τ} {token : τ} {rest : List τ}
    (h : Tracked step s₀ i₀ s i) (hi : i.remaining = token :: rest) (hs : step s token = .ok s') :
    Tracked step s₀ i₀ s' (i.advance 1) := by
  obtain ⟨front,⟨hpassed,rfl⟩,hfold⟩ := h
  refine ⟨front ++ [token],⟨?_,?_⟩,?_⟩
  · rw [Stream.remaining_advance,hi,List.append_assoc]
    simpa [hi] using hpassed
  · rw [Stream.advance_advance,List.length_append,List.length_singleton]
  · rw [List.foldlM_append,hfold]
    show (step s token >>= fun s => pure s) = _
    rw [hs]
    rfl

lemma Access.tracked (ht : t.Steps step) {Γ : List Type} {α : Type} {p : Parser ρ σ τ ε Γ α}
    (hp : t.Access p) (calls calls' : Answers (Callee ρ σ τ ε) σ τ ε Event)
    (env env' : Env ρ σ τ ε Γ) :
    (Coupling.ofInvariant (Tracked step s₀ i₀)).Actions calls calls' Eq (p.action env)
      (p.action env') := by
  rintro s i _ _ ⟨rfl,rfl,h⟩
  cases hp with
  | item =>
    -- between the token and the step the state lags behind, so both are one action here
    rw [ht,ht]
    cases hi : i.remaining with
    | nil =>
      rw [Action.itemBy_nil hi]
      exact .done .failure
    | cons token rest =>
      cases hs : step s token with
      | ok s' =>
        rw [Action.itemBy_ok hi hs]
        exact .emit (.item rfl) (.done (.success ⟨rfl,rfl,h.next hi hs⟩ rfl))
      | error reason =>
        rw [Action.itemBy_error hi hs]
        exact .emit (.item rfl) (.fault (.refl (fun _ => rfl) reason))
  | get => exact .done (.success ⟨rfl,rfl,h⟩ rfl)
  | getState => exact .done (.success ⟨rfl,rfl,h⟩ rfl)

/-- Over an itemizer that follows the tokens, a success ends with the state that the consumed tokens
lead to. -/
theorem tracked_of_success (ht : t.Steps step) {G : Grammar ρ σ τ ε}
    (hG : ∀ name, (G name).Over t) {α : Type} {p : Parser ρ σ τ ε [] α} (hp : p.Over t) {s : σ}
    {i : Stream τ} {r : Parsed σ τ α} {events : List Event}
    (h : (p.run s i).config.Ends G ⟨.ok (.success r),events⟩) :
    ∃ front, i.Passes front r.rest ∧ front.foldlM step s = .ok r.state :=
  Parser.BuiltFrom.keeps (Tracked step s i) hG hp (Access.tracked ht) False.elim
    ⟨[],⟨rfl,rfl⟩,rfl⟩ h

lemma foldlM_checkedSucc {limit n m : ℕ} {front : List τ}
    (h : front.foldlM (fun n _ => checkedSucc limit n) n = .ok m) : m = n + front.length := by
  induction front generalizing n with
  | nil => simpa [pure,Except.pure,eq_comm] using h
  | cons token front ih =>
    by_cases hn : n + 1 < limit
    · rw [List.foldlM_cons,checkedSucc_of_lt hn] at h
      rw [ih h,List.length_cons]
      omega
    · rw [List.foldlM_cons,checkedSucc_of_ge (Nat.not_lt.mp hn)] at h
      exact absurd h (by simp [Bind.bind,Except.bind])

/-- Over `count` the state grows by the number of consumed tokens, and over `position` it is the
place after them. -/
theorem state_follows_consumed {α : Type} :
    (∀ (G : Grammar ρ ℕ τ ε) (p : Parser ρ ℕ τ ε [] α), (∀ name, (G name).Over count) →
      p.Over count → ∀ n i r events, (p.run n i).config.Ends G ⟨.ok (.success r),events⟩ →
        ∃ front, i.Passes front r.rest ∧ r.state = n + front.length) ∧
    ∀ (G : Grammar ρ Position Char ε) (p : Parser ρ Position Char ε [] α),
      (∀ name, (G name).Over position) → p.Over position →
      ∀ s i r events, (p.run s i).config.Ends G ⟨.ok (.success r),events⟩ →
        ∃ front, i.Passes front r.rest ∧ front.foldlM Position.bump s = .ok r.state := by
  constructor
  · intro G p hG hp n i r events h
    obtain ⟨front,hpasses,hfold⟩ := tracked_of_success count_steps hG hp h
    exact ⟨front,hpasses,foldlM_checkedSucc hfold⟩
  · intro G p hG hp s i r events h
    exact tracked_of_success position_steps hG hp h

/-- A token that `mark` follows, without it, or else a token where no two of them stand. -/
def peel {Γ : List Type} (t : Itemizer ρ σ Char ε) (mark : Char) : Parser ρ σ Char ε Γ Char :=
  .plus (Parser.keepLeft t.item (t.literal mark)) (t.not1 (t.string [mark,mark]))

/-! Two tokens are consumed in vain, and then one is kept. -/

lemma peel_count_ends :
    ((count.peel 'x').run 5 (.ofList 0 ['\n','b'])).config.Ends Grammar.none
      ⟨.ok (.success ⟨6,(Stream.ofList 0 ['\n','b']).advance 1,'\n'⟩ : Reply ℕ Char ℕ Char),
        [.run 2,.item 0,.item 1,.plusBacktrack 0,.item 0,.item 0,.runFinished .success 1]⟩ :=
  Process.ends_iff_follow.mpr ⟨0,rfl⟩

lemma peel_position_ends :
    ((position.peel 'x').run .start (.ofList 0 ['\n','b'])).config.Ends Grammar.none
      ⟨.ok (.success ⟨⟨2,1⟩,(Stream.ofList 0 ['\n','b']).advance 1,'\n'⟩ :
          Reply Position Char ℕ Char),
        [.run 2,.item 0,.item 1,.plusBacktrack 0,.item 0,.item 0,.runFinished .success 1]⟩ :=
  Process.ends_iff_follow.mpr ⟨0,rfl⟩

theorem state_follows_consumed_of_peel :
    let i : Stream Char := .ofList 0 ['\n','b']
    ((count.peel 'x' : Parser Rules.none ℕ Char ℕ [] Char).Over count) ∧
      ((position.peel 'x' : Parser Rules.none Position Char ℕ [] Char).Over position) ∧
      (∃ r events, ((count.peel 'x').run 5 i).config.Ends Grammar.none
          ⟨.ok (.success r : Reply ℕ Char ℕ Char),events⟩ ∧
        r.state = 6 ∧ ∃ front, i.Passes front r.rest ∧ r.state = 5 + front.length) ∧
      ∃ r events, ((position.peel 'x').run .start i).config.Ends Grammar.none
          ⟨.ok (.success r : Reply Position Char ℕ Char),events⟩ ∧
        r.state = ⟨2,1⟩ ∧
        ∃ front, i.Passes front r.rest ∧ front.foldlM Position.bump .start = .ok r.state := by
  have hG : ∀ {σ : Type} (t : Itemizer Rules.none σ Char ℕ) name,
      (Grammar.none name : Parser Rules.none σ Char ℕ [] _).Over t := fun _ name => name.elim
  have hp : ∀ {σ : Type} (t : Itemizer Rules.none σ Char ℕ),
      (t.peel 'x' : Parser Rules.none σ Char ℕ [] Char).Over t := fun t =>
    .plus (.map Prod.fst (.both (.leaf .item) (satisfy_over _))) (not1_over (string_over _))
  obtain ⟨hcounted,hplaced⟩ := @state_follows_consumed Rules.none Char ℕ Char
  intro i
  exact ⟨hp _,hp _,⟨_,_,peel_count_ends,rfl,hcounted _ _ (hG _) (hp _) _ _ _ _ peel_count_ends⟩,
    ⟨_,_,peel_position_ends,rfl,hplaced _ _ (hG _) (hp _) _ _ _ _ peel_position_ends⟩⟩

end Itemizer
end Backtrack
