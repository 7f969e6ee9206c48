import Backtrack.Proofs.Parser.Parts

/-!
Streams that compare equal. Two streams are equal if the same tokens remain, in whatever buffers and
from whatever offsets on. Parsers whose functions take equal values to equal values do not tell such
streams apart. Only the offsets in their reports differ, and without `put` they differ by as much as
the inputs do.
-/
namespace Backtrack

variable {ρ : Rules} {σ τ ε : Type}

/-- Which states, errors and values of rules count as equal. Tokens and streams are compared
by `==`. -/
structure Equality (ρ : Rules) (σ ε : Type) where
  state : σ → σ → Prop
  error : ε → ε → Prop
  out : (name : ρ.Name) → ρ.Out name → ρ.Out name → Prop

namespace Stream

variable [BEq τ] {i j : Stream τ}

lemma beq_iff_forall₂ :
    (i == j) = true ↔ List.Forall₂ (fun a b => (a == b) = true) i.remaining j.remaining := by
  have hlists : ∀ as bs : List τ,
      (as == bs) = true ↔ List.Forall₂ (fun a b => (a == b) = true) as bs := by
    intro as
    induction as with
    | nil => simp
    | cons a as ih =>
      intro bs
      cases bs with
      | nil => simp
      | cons b bs => rw [List.cons_beq_cons,Bool.and_eq_true,List.forall₂_cons,ih]
  exact hlists i.remaining j.remaining

lemma length_eq_of_beq (h : (i == j) = true) : i.length = j.length := by
  rw [← length_remaining,← length_remaining]
  exact (beq_iff_forall₂.mp h).length_eq

lemma advance_beq (h : (i == j) = true) (n : ℕ) : (i.advance n == j.advance n) = true := by
  rw [beq_iff_forall₂,remaining_advance,remaining_advance]
  exact List.forall₂_drop n (beq_iff_forall₂.mp h)

/-- Offsets that are as far apart as those of two inputs, unless other streams may be put in
place. -/
def Shifted (puts : Prop) (i i' : Stream τ) (m n : ℕ) : Prop :=
  ¬ puts → m + i'.offset = n + i.offset

end Stream

namespace Equality

variable [BEq τ] (E : Equality ρ σ ε)

/-- Updates that fault alike. -/
inductive Updated : Except Fault σ → Except Fault σ → Prop
  | ok {s t : σ} (h : E.state s t) : Updated (.ok s) (.ok t)
  | fault {reason : Fault} (h : ∀ offset, reason ≠ .stalled offset) :
      Updated (.error reason) (.error reason)

/-- The ways to read and change tokens and state; streams that are put in place are equal. -/
inductive Access (puts : Prop) : {Γ : List Type} → {α : Type} → (α → α → Prop) →
    Parser ρ σ τ ε Γ α → Parser ρ σ τ ε Γ α → Prop
  | item {Γ} : Access puts (fun a b => (a == b) = true) (.item : Parser ρ σ τ ε Γ τ) .item
  | get {Γ} :
      Access puts (fun i j => (i == j) = true) (.get : Parser ρ σ τ ε Γ (Stream τ)) .get
  | put {Γ} {i j : Stream τ} (hputs : puts) (h : (i == j) = true) :
      Access puts Eq (.put i : Parser ρ σ τ ε Γ Unit) (.put j)
  | getState {Γ} : Access puts E.state (.getState : Parser ρ σ τ ε Γ σ) .getState
  | putState {Γ} {s t : σ} (h : E.state s t) :
      Access puts Eq (.putState s : Parser ρ σ τ ε Γ Unit) (.putState t)
  | updateState {Γ} {f g : σ → Except Fault σ} (h : ∀ s t, E.state s t → E.Updated (f s) (g t)) :
      Access puts Eq (.updateState f : Parser ρ σ τ ε Γ Unit) (.updateState g)

def basis (puts : Prop) : Basis ρ σ σ τ ε where
  leaf := E.Access puts
  errors := E.error
  outs := E.out
  rewinds := True

/-- The parser takes equal values to equal values wherever it applies a function, selects a parser
or puts a stream in place, which it does only if it may. -/
def Respected (puts : Prop) {α : Type} (R : α → α → Prop) (p : Parser ρ σ τ ε [] α) : Prop :=
  Parser.Alike (E.basis puts) Ties.nil R p p

/-- Equal states and equal streams; the offsets are shifted as those of the inputs. -/
def coupling (puts : Prop) (i₀ i₀' : Stream τ) : Coupling σ σ τ ε where
  places s i s' i' :=
    E.state s s' ∧ (i == i') = true ∧ Stream.Shifted puts i₀ i₀' i.offset i'.offset
  offsets := Stream.Shifted puts i₀ i₀'
  errors := E.error
  excused _ := False
  length_eq h := Stream.length_eq_of_beq h.2.1
  offsets_of_places h := h.2.2

variable {E} {puts : Prop} {i₀ i₀' : Stream τ}

lemma Access.actions {Γ : List Type} {α : Type} {R : α → α → Prop} {p p' : Parser ρ σ τ ε Γ α}
    (h : E.Access puts R p p') (calls calls' : Answers (Callee ρ σ τ ε) σ τ ε Event)
    (env env' : Env ρ σ τ ε Γ) :
    (E.coupling puts i₀ i₀').Actions calls calls' R (p.action env) (p'.action env') := by
  rintro s i s' i' ⟨hs,hi,hshift⟩
  cases h with
  | item =>
    refine Coupling.Actions.item (fun h => ?_) (fun h _ => ?_) s i s' i' ⟨hs,hi,hshift⟩
    · exact Stream.beq_iff_forall₂.mp h.2.1
    · refine ⟨h.1,Stream.advance_beq h.2.1 1,fun hputs => ?_⟩
      have hoffsets := h.2.2 hputs
      simp only [Stream.advance]
      omega
  | get => exact .done (.success ⟨hs,hi,hshift⟩ hi)
  | put hputs h =>
    -- where a stream that is put in place begins has nothing to do with the inputs
    exact .done (.success ⟨hs,h,fun hnot => absurd hputs hnot⟩ rfl)
  | getState => exact .done (.success ⟨hs,hi,hshift⟩ hs)
  | putState h => exact .done (.success ⟨h,hi,hshift⟩ rfl)
  | @updateState f g h =>
    rw [Parser.updateState_action,Parser.updateState_action,Action.updateState,Action.updateState]
    have hupdated := h s s' hs
    generalize f s = u at hupdated ⊢
    generalize g s' = u' at hupdated ⊢
    cases hupdated with
    | ok ht => exact .done (.success ⟨ht,hi,hshift⟩ rfl)
    | fault hreason => exact .fault (.same hreason)

lemma keeps : (E.coupling puts i₀ i₀').Keeps (E.basis puts : Basis ρ σ σ τ ε) where
  leaf := Access.actions
  errors := rfl
  rewinds := fun _ _ _ _ _ _ _ _ _ hi hj => ⟨hj.1,hi.2⟩

variable {G : Grammar ρ σ τ ε} {α : Type} {R : α → α → Prop} {p : Parser ρ σ τ ε [] α}

/-- From equal states and equal streams a parser comes to equal ends: equal answers with equal
rests, equal errors or the same fault, after the same events. Only offsets may differ, and if no
streams are put in place they differ by as much as those of the inputs. -/
theorem runs_agree (hG : ∀ name, E.Respected puts (E.out name) (G name))
    (hp : E.Respected puts R p) {s s' : σ} (hs : E.state s s') {i i' : Stream τ}
    (hi : (i == i') = true) :
    (∀ report, (p.run s i).config.Ends G report →
      ∃ report', (p.run s' i').config.Ends G report' ∧
        Report.Alike (Stream.Shifted puts i i') ((E.coupling puts i i').Replies R)
          report report') ∧
    ∀ report', (p.run s' i').config.Ends G report' →
      ∃ report, (p.run s i).config.Ends G report ∧
        Report.Alike (Stream.Shifted puts i i') ((E.coupling puts i i').Replies R)
          report report' := by
  have hplace : (E.coupling puts i i').places s i s' i' :=
    ⟨hs,hi,fun _ => Nat.add_comm i.offset i'.offset⟩
  constructor
  · intro report h
    rcases hp.ends keeps hG hplace h with ⟨_,_,hfalse,_⟩ | hends
    · exact hfalse.elim
    · exact hends
  · intro report' h
    exact hp.ends_back keeps hG hplace h fun _ hfalse => hfalse.elim

def strict : Equality ρ σ ε := ⟨Eq,Eq,fun _ => Eq⟩

/-- The ways to read and change tokens and state that show no stream. -/
inductive Blind : {Γ : List Type} → {α : Type} → Parser ρ σ τ ε Γ α → Prop
  | item {Γ} : Blind (.item : Parser ρ σ τ ε Γ τ)
  | getState {Γ} : Blind (.getState : Parser ρ σ τ ε Γ σ)
  | putState {Γ} (s : σ) : Blind (.putState s : Parser ρ σ τ ε Γ Unit)
  | updateState {Γ} {f : σ → Except Fault σ} (h : ∀ s offset, f s ≠ .error (.stalled offset)) :
      Blind (.updateState f : Parser ρ σ τ ε Γ Unit)

/-- A parser that never looks at a stream respects their equality, whatever functions it applies. -/
theorem respected_of_blind [LawfulBEq τ] (hp : p.BuiltFrom ⟨Blind,True⟩) :
    strict.Respected False Eq p := by
  have hbeq : (fun a b : τ => (a == b) = true) = Eq := by
    funext a b
    exact propext beq_iff_eq
  refine hp.alike (fun {Γ α p} h => ?_) rfl (fun _ => rfl) id fun _ slot => nomatch slot
  cases h with
  | item => exact hbeq ▸ Access.item
  | getState => exact .getState
  | putState s => exact .putState rfl
  | @updateState f h =>
    refine .updateState ?_
    rintro s _ rfl
    cases hs : f s with
    | ok t => exact .ok rfl
    | error reason => exact .fault fun offset hreason => h s offset (hreason ▸ hs)

/-- A token is read twice, and one that is not there is looked for, in two buffers. -/
theorem runs_agree_of_reread :
    let E : Equality Rules.none Unit ℕ := .strict
    let i : Stream Char := .ofList 0 ['a','b']
    let i' : Stream Char := ⟨⟨1,#['x','a','b']⟩,1⟩
    let reread : Parser Rules.none Unit Char ℕ [] Char :=
      .bind .get fun saved => .map Prod.fst (.both .item (.put saved))
    let seek : Parser Rules.none Unit Char ℕ [] Char := .plus (.check (· == 'x') .item) .item
    (i == i') = true ∧ E.Respected True Eq reread ∧ E.Respected False Eq seek ∧
      (∃ report', (reread.run () i').config.Ends Grammar.none report' ∧
        Report.Alike (Stream.Shifted True i i') ((E.coupling True i i').Replies Eq)
          ⟨.ok (.success ⟨(),i,'a'⟩),[.run 2,.item 0,.runFinished .success 0]⟩ report') ∧
      ∃ report', (seek.run () i').config.Ends Grammar.none report' ∧
        Report.Alike (Stream.Shifted False i i') ((E.coupling False i i').Replies Eq)
          ⟨.ok (.success ⟨(),i.advance 1,'a'⟩),
            [.run 2,.item 0,.plusBacktrack 0,.item 0,.runFinished .success 1]⟩ report' := by
  intro E i i' reread seek
  have hi : (i == i') = true := rfl
  have hG : ∀ {puts : Prop} name, E.Respected puts Eq
      (Grammar.none name : Parser Rules.none Unit Char ℕ [] _) := fun name => name.elim
  have hreread : E.Respected True Eq reread := by
    refine .bind (.leaf .get) fun saved saved' hsaved => ?_
    have hitem : Parser.Alike (E.basis True) Ties.nil Eq
        (.item : Parser Rules.none Unit Char ℕ [] Char) .item :=
      .weaken (.leaf .item) fun _ _ => eq_of_beq
    exact .map (fun _ _ h => h.1) (.both hitem (.leaf (.put trivial hsaved)))
  have hseek : E.Respected False Eq seek :=
    respected_of_blind (.plus (.check _ (.leaf .item)) (.leaf .item))
  exact ⟨hi,hreread,hseek,
    (runs_agree hG hreread rfl hi).1 _ (Process.ends_iff_follow.mpr ⟨0,rfl⟩),
    (runs_agree hG hseek rfl hi).1 _ (Process.ends_iff_follow.mpr ⟨0,rfl⟩)⟩

end Equality
end Backtrack
