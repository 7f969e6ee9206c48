import Backtrack.Proofs.Parser.Substitution
import Backtrack.Proofs.Parser.Simulation
import Backtrack.Proofs.Process.Agreement

/-!
Ways to tie a knot. A parser that is defined in terms of itself, a rule that calls itself by name,
and the definition with itself in the place of its placeholder are the same parser: they come to
the same ends. So it makes no difference how often a definition is unfolded.
-/
namespace Backtrack

variable {ρ : Rules} {σ τ ε : Type} {α β : Type} {Γ Δ : List Type} {G : Grammar ρ σ τ ε} {m n : ℕ}

/-- The filler does what the callee does, up to a depth of calls. A parser that stands alone does so
in every environment. -/
def Filler.Serves (G : Grammar ρ σ τ ε) (n : ℕ) (c : Callee ρ σ τ ε α) (env : Env ρ σ τ ε Γ) :
    Filler ρ σ τ ε Γ α → Prop
  | slot s => (Action.call c).Agree G n (.call (env.callee s))
  | whole p => ∀ {Δ : List Type} (env : Env ρ σ τ ε Δ), (Action.call c).Agree G n (p.action env)

lemma Filler.Serves.mono {c : Callee ρ σ τ ε α} {env : Env ρ σ τ ε Γ} {f : Filler ρ σ τ ε Γ α}
    (h : f.Serves G n c env) (hmn : m ≤ n) : f.Serves G m c env := by
  cases f with
  | slot s => exact Action.Agree.mono h hmn
  | whole p => exact fun {Δ} env => Action.Agree.mono (h env) hmn

lemma Filler.Serves.there {c : Callee ρ σ τ ε α} {env : Env ρ σ τ ε Γ} {f : Filler ρ σ τ ε Γ α}
    (h : f.Serves G n c env) (body : Parser ρ σ τ ε (β :: Γ) β) :
    f.there.Serves G n c (.define body env) := by
  cases f with
  | slot s => exact h
  | whole p => exact h

/-- The fillers do what the definitions of their placeholders do, up to a depth of calls. -/
def Filling.Serves (G : Grammar ρ σ τ ε) (n : ℕ) (env : Env ρ σ τ ε Γ) (env' : Env ρ σ τ ε Δ)
    (θ : Filling ρ σ τ ε Γ Δ) : Prop :=
  ∀ α (slot : Slot Γ α), (θ α slot).Serves G n (env.callee slot) env'

lemma Filling.Serves.mono {env : Env ρ σ τ ε Γ} {env' : Env ρ σ τ ε Δ} {θ : Filling ρ σ τ ε Γ Δ}
    (h : θ.Serves G n env env') (hmn : m ≤ n) : θ.Serves G m env env' :=
  fun α slot => (h α slot).mono hmn

/-- If a body agrees with its filled form wherever the fillers serve, then the definition that it
gives agrees with the filled definition, and the fillers serve inside of it. -/
lemma Filling.Serves.under {body : Parser ρ σ τ ε (α :: Γ) α}
    (hbody : ∀ {n : ℕ} {Δ : List Type} {env : Env ρ σ τ ε (α :: Γ)} {env' : Env ρ σ τ ε Δ}
      {θ : Filling ρ σ τ ε (α :: Γ) Δ}, θ.Serves G n env env' →
        (body.action env).Agree G n ((body.fill θ).action env'))
    {env : Env ρ σ τ ε Γ} {env' : Env ρ σ τ ε Δ} {θ : Filling ρ σ τ ε Γ Δ}
    (h : θ.Serves G n env env') :
    (θ.under α).Serves G n (.define body env) (.define (body.fill (θ.under α)) env') := by
  -- a definition is called by its own body, one level further down
  induction n with
  | zero =>
    intro β slot
    cases slot with
    | here => exact Action.Agree.call_zero _ _
    | there slot => exact (h β slot).there _
  | succ n ih =>
    intro β slot
    cases slot with
    | here => exact Action.Agree.call (hbody (ih (h.mono (Nat.le_succ n))))
    | there slot => exact (h β slot).there _

/-- Where fillers do what the definitions of their placeholders do, the filled parser does what the
parser does. -/
theorem Parser.agree_fill (p : Parser ρ σ τ ε Γ α) {env : Env ρ σ τ ε Γ} {env' : Env ρ σ τ ε Δ}
    {θ : Filling ρ σ τ ε Γ Δ} (hθ : θ.Serves G n env env') :
    (p.action env).Agree G n ((p.fill θ).action env') := by
  induction p generalizing n Δ with
  | item | pure | zero | error | fault | get | put | getState | putState | updateState | rule =>
    exact .refl _
  | map f p ih => exact (ih hθ).map f
  | bind p next ih ihNext => exact (ih hθ).bind fun x => ihNext x hθ
  | check accept p ih => exact (ih hθ).check accept
  | tuple n types parts make ih => exact .tuple (fun k => ih k hθ) make
  | sequence n parts ih => exact .sequence fun k => ih k hθ
  | plus p q ihp ihq => exact (ihp hθ).plus (ihq hθ)
  | choice n parts ih => exact .choice fun k => ih k hθ
  | many0 p ih => exact (ih hθ).many0
  | maybe p ih => exact (ih hθ).maybe
  | not0 p ih => exact (ih hθ).not0
  | lookahead p ih => exact (ih hθ).lookahead
  | commit payload p ih => exact (ih hθ).commit payload
  | catchError p handler ih ihHandler => exact (ih hθ).catchError fun e => ihHandler e hθ
  | mapError f p ih => exact (ih hθ).mapError f
  | recursive body ih => exact ih (hθ.under ih)
  | placeholder slot =>
    have hslot := hθ _ slot
    show (Action.call _).Agree G n ((θ _ slot).parser.action env')
    cases hf : θ _ slot with
    | slot s =>
      rw [hf] at hslot
      exact hslot
    | whole p =>
      rw [hf] at hslot
      exact hslot env'
  | trial p state tokens ih => exact (ih hθ).trial state tokens

/-- A parser that stands alone does the same in every environment. -/
lemma Parser.agree_anywhere (p : Parser ρ σ τ ε [] α) (env : Env ρ σ τ ε Γ) :
    (p.action .empty).Agree G n (p.anywhere.action env) :=
  p.agree_fill fun _ slot => nomatch slot

/-- A body does the same whether its placeholder calls a definition or is replaced by a parser that
does what the call does. -/
lemma Parser.agree_instantiate {definition : Parser ρ σ τ ε [α] α} {p : Parser ρ σ τ ε [] α}
    (hp : ∀ {Γ : List Type} (env : Env ρ σ τ ε Γ),
      (Action.call (.defined definition .empty)).Agree G n (p.anywhere.action env))
    (body : Parser ρ σ τ ε [α] β) :
    (body.action (.define definition .empty)).Agree G n ((body.instantiate p).action .empty) := by
  refine body.agree_fill fun α slot => ?_
  cases slot with
  | here => exact fun env => hp env
  | there slot => exact nomatch slot

/-- To call a definition is to run it in place. -/
lemma Parser.call_agree_recursive (body : Parser ρ σ τ ε [α] α) (env : Env ρ σ τ ε Γ) :
    (Action.call (.defined body .empty)).Agree G n ((recursive body).anywhere.action env) := by
  intro s i
  have hplace : ∀ n, ((recursive body).action .empty s i).Agree G n
      ((recursive body).anywhere.action env s i) := fun n => (recursive body).agree_anywhere env s i
  exact Process.agree_of_yields_iff fun events result =>
    Process.yields_call_iff.trans (Process.yields_iff_of_agree hplace)

/-- To call a definition is to call the rule that has itself in the place of the placeholder. -/
lemma Parser.call_agree_rule {name : ρ.Name} {body : Parser ρ σ τ ε [ρ.Out name] (ρ.Out name)}
    (hrule : G name = body.instantiate (.rule name)) (n : ℕ) :
    (Action.call (.defined body .empty)).Agree G n (.call (.rule name)) := by
  induction n with
  | zero => exact .call_zero _ _
  | succ n ih =>
    apply Action.Agree.call
    show (body.action (.define body .empty)).Agree G n ((G name).action .empty)
    rw [hrule]
    exact Parser.agree_instantiate (fun env => ih) body

lemma Parser.ends_iff_of_agree {p q : Parser ρ σ τ ε [] α}
    (h : ∀ n, (p.action .empty).Agree G n (q.action .empty)) (s : σ) (i : Stream τ)
    (report : Report (Reply σ τ ε α)) :
    (p.run s i).config.Ends G report ↔ (q.run s i).config.Ends G report := by
  have hrun : ∀ n, (p.run s i).Agree G n (q.run s i) := fun n => Action.Agree.run (h n) s i
  exact Process.yields_iff_ends.symm.trans
    ((Process.yields_iff_of_agree hrun).trans Process.yields_iff_ends)

/-- A parser defined in terms of itself is its definition with itself in the place of the
placeholder. If a rule is that definition with a call of the rule in the place of the placeholder,
then the parser, the rule and a call of the rule come to the same ends. -/
theorem Parser.knots_agree (G : Grammar ρ σ τ ε) :
    (∀ {α : Type} (body : Parser ρ σ τ ε [α] α) s i report,
      ((recursive body).run s i).config.Ends G report ↔
        ((body.instantiate (recursive body)).run s i).config.Ends G report) ∧
    ∀ name (body : Parser ρ σ τ ε [ρ.Out name] (ρ.Out name)),
      G name = body.instantiate (.rule name) → ∀ s i report,
        (((recursive body).run s i).config.Ends G report ↔
          ((G name).run s i).config.Ends G report) ∧
        (((recursive body).run s i).config.Ends G report ↔
          ((rule name).run s i).config.Ends G report) := by
  constructor
  · intro α body
    exact ends_iff_of_agree fun n => agree_instantiate (call_agree_recursive body) body
  · intro name body hrule s i report
    have hcall : ∀ n, ((recursive body).action .empty).Agree G n ((G name).action .empty) := by
      intro n
      rw [hrule]
      exact agree_instantiate (fun _ => call_agree_rule hrule n) body
    have hrecursive := ends_iff_of_agree hcall s i report
    have hname : ∀ n, ((G name).action .empty).Agree G n ((rule name).action .empty) :=
      fun n => (Action.Agree.callee (.rule name)).symm
    exact ⟨hrecursive,hrecursive.trans (ends_iff_of_agree hname s i report)⟩

/-- Rules with one name. -/
def Rules.one (α : Type) : Rules := ⟨Unit,fun _ => α⟩

/-- How deep brackets are nested, where the placeholder stands for the brackets inside. -/
def Parser.depth : Parser (.one ℕ) Unit Char ℕ [ℕ] ℕ :=
  let bracket (c : Char) : Parser (.one ℕ) Unit Char ℕ [ℕ] Char := .check (· == c) .item
  .plus (.map (fun parts => parts.2.1 + 1)
    (.both (bracket '(') (.both (.placeholder .here) (bracket ')')))) (.pure 0)

/-- The rule that counts brackets by calling itself. -/
def Grammar.depth : Grammar (.one ℕ) Unit Char ℕ := fun _ => Parser.depth.instantiate (.rule ())

/-- The parser that calls itself and the rule both find the depth of a pair of brackets. -/
theorem Parser.knots_agree_on_brackets :
    let i : Stream Char := .ofList 0 ['(',')']
    let report : Report (Reply Unit Char ℕ ℕ) := ⟨.ok (.success ⟨(),i.advance 2,1⟩),
      [.run 2,.item 0,.item 1,.plusBacktrack 1,.item 1,.runFinished .success 2]⟩
    ((recursive depth).run () i).config.Ends .depth report ∧
      ((depth.instantiate (recursive depth)).run () i).config.Ends .depth report ∧
      ((Grammar.depth ()).run () i).config.Ends .depth report := by
  intro i report
  have hends : ((recursive depth).run () i).config.Ends .depth report :=
    Process.ends_iff_follow.mpr ⟨2,rfl⟩
  obtain ⟨hunfold,hrule⟩ := knots_agree .depth
  exact ⟨hends,(hunfold depth () i report).mp hends,((hrule () depth rfl () i report).1).mp hends⟩

end Backtrack
