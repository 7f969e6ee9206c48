import Backtrack.Proofs.Parser.Unwinding

/-!
The conduct of parsers. Each way to build a parser, `catchError` apart, passes an error of its
parts on and runs nothing after it. So does every parser that is built without it, at every depth
of calls.
-/
namespace Backtrack

variable {ρ : Rules} {σ τ ε : Type} {Γ : List Type} {α β : Type}

section
variable (marked : Answers (Callee ρ σ τ ε) σ τ ε (Mark ρ σ τ ε))

/-- What is followed of a process conducts itself. -/
def Process.Conducts (f : ε → ε) (p : Process (Note ρ σ τ ε) σ τ ε (Reply σ τ ε α)) : Prop :=
  Conduct f (p.follow .event (Note.answers marked))

/-- What is followed of an action conducts itself, from every state and input. -/
def Action.Conducts (f : ε → ε) (a : Action (Note ρ σ τ ε) σ τ ε α) : Prop :=
  ∀ s i, (a s i).Conducts marked f

end

variable {marked : Answers (Callee ρ σ τ ε) σ τ ε (Mark ρ σ τ ε)} {f : ε → ε}

namespace Process

variable {p : Process (Note ρ σ τ ε) σ τ ε (Reply σ τ ε α)}

lemma conducts_done {r : Reply σ τ ε α} (hr : r.isError = false) :
    (done r : Process (Note ρ σ τ ε) σ τ ε _).Conducts marked f :=
  Conduct.answer hr

lemma Conducts.emit {event : Event} (hevent : (Mark.event event : Mark ρ σ τ ε).raises = false)
    {next : Unit → Process (Note ρ σ τ ε) σ τ ε (Reply σ τ ε α)}
    (h : (next ()).Conducts marked f) : (emit event next).Conducts marked f :=
  have hcalm : ∀ m ∈ [(.event event : Mark ρ σ τ ε)], m.Calm := by
    simp [Mark.Calm,hevent,Mark.returnsError]
  Conduct.after_calm hcalm (fun _ => rfl) h

lemma Conducts.bind {k : Reply σ τ ε α → Process (Note ρ σ τ ε) σ τ ε (Reply σ τ ε β)}
    (hp : p.Conducts marked id) (hsuccess : ∀ r, (k (.success r)).Conducts marked f)
    (hfailure : (k .failure).Conducts marked f) (herror : ∀ e, k (.error e) = done (.error (f e))) :
    (p.bind k).Conducts marked f := by
  rw [Conducts,follow_bind]
  refine Conduct.bind hp (fun e => by rw [herror]; rfl) fun r hr => ?_
  cases r with
  | success r => exact hsuccess r
  | failure => exact hfailure
  | error e => simp at hr

lemma Conducts.map {g : Reply σ τ ε α → Reply σ τ ε β} (hp : p.Conducts marked id)
    (hsuccess : ∀ r, (g (.success r)).isError = false) (hfailure : (g .failure).isError = false)
    (herror : ∀ e, g (.error e) = .error (f e)) : (p.map g).Conducts marked f := by
  refine hp.bind (fun r => conducts_done (hsuccess r)) (conducts_done hfailure) fun e => ?_
  rw [herror]

end Process

namespace Action

variable {a b : Action (Note ρ σ τ ε) σ τ ε α}

lemma conducts_item : (item : Action (Note ρ σ τ ε) σ τ ε τ).Conducts marked f := by
  intro s i
  rw [item]
  split
  · exact (Process.conducts_done rfl).emit rfl
  · exact Process.conducts_done rfl

lemma conducts_updateState (update : σ → Except Fault σ) :
    (updateState update : Action (Note ρ σ τ ε) σ τ ε Unit).Conducts marked f := by
  intro s i
  rw [updateState]
  split
  · exact Process.conducts_done rfl
  · exact Conduct.fault _

/-- An error that comes with its event is raised there. -/
lemma conducts_escalation (payload : ε) :
    ((error payload).announcing fun i => .commitEscalated i.offset :
      Action (Note ρ σ τ ε) σ τ ε α).Conducts marked id :=
  fun _ i => Conduct.raised [] (.event (.commitEscalated i.offset)) [] payload (by simp) rfl
    fun _ => rfl

namespace Conducts

lemma map (ha : a.Conducts marked id) (g : α → β) : (a.map g).Conducts marked id :=
  fun s i => (ha s i).map (fun _ => rfl) rfl fun _ => rfl

lemma andThen (ha : a.Conducts marked id)
    {next : Parsed σ τ α → Process (Note ρ σ τ ε) σ τ ε (Reply σ τ ε β)}
    (hnext : ∀ r, (next r).Conducts marked id) : (a.andThen next).Conducts marked id :=
  fun s i => (ha s i).bind hnext (Process.conducts_done rfl) fun _ => rfl

lemma bind (ha : a.Conducts marked id) {next : α → Action (Note ρ σ τ ε) σ τ ε β}
    (hnext : ∀ x, (next x).Conducts marked id) : (a.bind next).Conducts marked id :=
  ha.andThen fun r => hnext r.value r.state r.rest

lemma check (ha : a.Conducts marked id) (accept : α → Bool) :
    (a.check accept).Conducts marked id := by
  refine ha.andThen fun r => ?_
  split
  · exact Process.conducts_done rfl
  · exact Process.conducts_done rfl

lemma tuple {n : ℕ} {types : Fin n → Type}
    {actions : (k : Fin n) → Action (Note ρ σ τ ε) σ τ ε (types k)}
    (h : ∀ k, (actions k).Conducts marked id) (make : ((k : Fin n) → types k) → β) :
    (tuple n types actions make).Conducts marked id := by
  induction n with
  | zero => exact fun _ _ => Process.conducts_done rfl
  | succ n ih => exact (h 0).bind fun value => ih (fun k => h k.succ) _

lemma sequence {actions : List (Action (Note ρ σ τ ε) σ τ ε α)}
    (h : ∀ a ∈ actions, a.Conducts marked id) : (sequence actions).Conducts marked id := by
  have hfrom : ∀ values, (sequenceFrom values actions).Conducts marked id := by
    induction actions with
    | nil => exact fun _ _ _ => Process.conducts_done rfl
    | cons a rest ih =>
      intro values
      have ha := h a (List.mem_cons_self ..)
      exact ha.andThen fun r => ih (fun b hb => h b (List.mem_cons_of_mem _ hb)) _ r.state r.rest
  exact hfrom []

lemma orElse (ha : a.Conducts marked id) {other : Action (Note ρ σ τ ε) σ τ ε α}
    (hother : other.Conducts marked id) : (a.orElse other).Conducts marked id :=
  fun s i => (ha s i).bind (fun _ => Process.conducts_done rfl) (hother s i) fun _ => rfl

lemma announcing (ha : a.Conducts marked id) {event : Stream τ → Event}
    (hevent : ∀ i, (Mark.event (event i) : Mark ρ σ τ ε).raises = false) :
    (a.announcing event).Conducts marked id :=
  fun s i => (ha s i).emit (hevent i)

lemma plus (ha : a.Conducts marked id) (hb : b.Conducts marked id) :
    (a.plus b).Conducts marked id :=
  ha.orElse (hb.announcing fun _ => rfl)

lemma choice {actions : List (Action (Note ρ σ τ ε) σ τ ε α)}
    (h : ∀ a ∈ actions, a.Conducts marked id) : (choice actions).Conducts marked id := by
  have hfrom : ∀ index, (choiceFrom index actions).Conducts marked id := by
    induction actions with
    | nil => exact fun _ _ _ => Process.conducts_done rfl
    | cons a rest ih =>
      intro index
      have ha := h a (List.mem_cons_self ..)
      have hrest := ih (fun b hb => h b (List.mem_cons_of_mem _ hb)) (index + 1)
      exact ha.orElse (hrest.announcing fun _ => rfl)
  exact hfrom 0

/-- The rounds of a repetition, by the length of what they have before them. -/
lemma many0From (ha : a.Conducts marked id) (values : List α) (s : σ) (i : Stream τ) :
    (many0From a values s i).Conducts marked id := by
  induction hn : i.length using Nat.strongRecOn generalizing values s i with
  | _ n ih =>
    rw [Action.many0From]
    refine (ha s i).bind (fun r => ?_) ((Process.conducts_done rfl).emit rfl) fun _ => rfl
    by_cases hr : r.rest.length < i.length
    · simp only [hr,if_true]
      exact ih _ (by omega) _ _ _ rfl
    · simp only [hr,if_false]
      exact Conduct.fault _

lemma maybe (ha : a.Conducts marked id) : a.maybe.Conducts marked id :=
  (ha.map some).orElse fun _ _ => Process.conducts_done rfl

lemma not0 (ha : a.Conducts marked id) : a.not0.Conducts marked id :=
  fun s i => (ha s i).map (fun _ => rfl) rfl fun _ => rfl

lemma lookahead (ha : a.Conducts marked id) : a.lookahead.Conducts marked id :=
  fun s i => (ha s i).map (fun _ => rfl) rfl fun _ => rfl

lemma commit (ha : a.Conducts marked id) (payload : ε) :
    (a.commit payload).Conducts marked id :=
  ha.orElse (conducts_escalation payload)

lemma mapError (ha : a.Conducts marked id) (f : ε → ε) : (a.mapError f).Conducts marked f :=
  fun s i => (ha s i).map (fun _ => rfl) rfl fun _ => rfl

lemma call {c : Callee ρ σ τ ε α} (h : ∀ s i, Conduct id (marked c s i)) :
    (call (.callee c) : Action (Note ρ σ τ ε) σ τ ε α).Conducts marked id := by
  intro s i
  show Conduct id ((marked c s i).bind .pure)
  rw [Trail.bind_pure]
  exact h s i

end Conducts

lemma follow_within (p : AnyParser ρ σ τ ε) (a : Action (Note ρ σ τ ε) σ τ ε α) (s : σ)
    (i : Stream τ) : (within p a s i).follow .event (Note.answers marked) =
      (((a s i).follow .event (Note.answers marked)).bind fun r =>
        ⟨[.leave (r.map fun _ => ())],.answer r⟩).noting (.enter p) := by
  simp only [within,Process.follow,Process.follow_bind]
  rfl

lemma Conducts.within {p : AnyParser ρ σ τ ε} (hp : p.isErrorLeaf = false)
    (ha : a.Conducts marked p.errorMap) : (within p a).Conducts marked id := by
  intro s i
  rw [Process.Conducts,follow_within]
  exact (ha s i).between_marks hp

lemma conducts_within_error (Γ : List Type) (payload : ε) :
    (within ⟨(.error payload : Parser ρ σ τ ε Γ α)⟩ (error payload) :
      Action (Note ρ σ τ ε) σ τ ε α).Conducts marked id :=
  fun _ _ => Conduct.raised [] (.enter ⟨.error payload⟩) [⟨.error payload⟩] payload (by simp) rfl
    fun _ => rfl

end Action

/-! Parsers that catch no error. -/

/-- The parser and all its parts, for every value that selects one, are free of `catchError`, and
run nothing apart. -/
def Parser.CatchFree {Γ : List Type} {α : Type} : Parser ρ σ τ ε Γ α → Prop
  | .map _ p | .check _ p | .many0 p | .maybe p | .not0 p | .lookahead p | .commit _ p
  | .mapError _ p => p.CatchFree
  | .recursive body => body.CatchFree
  | .bind p next => p.CatchFree ∧ ∀ a, (next a).CatchFree
  | .plus p q => p.CatchFree ∧ q.CatchFree
  | .sequence _ parts | .choice _ parts | .tuple _ _ parts _ => ∀ k, (parts k).CatchFree
  | .catchError _ _ | .trial _ _ _ => False
  | _ => True

def Env.CatchFree : {Γ : List Type} → Env ρ σ τ ε Γ → Prop
  | _, .empty => True
  | _, .define body outer => body.CatchFree ∧ outer.CatchFree

def Callee.CatchFree : Callee ρ σ τ ε α → Prop
  | .defined body outer => body.CatchFree ∧ outer.CatchFree
  | .rule _ => True

lemma Env.CatchFree.callee {env : Env ρ σ τ ε Γ} (henv : env.CatchFree) (slot : Slot Γ α) :
    (env.callee slot).CatchFree := by
  induction slot with
  | here =>
    cases env with
    | define body outer => exact henv
  | there slot ih =>
    cases env with
    | define body outer => exact ih henv.2

/-- A parser that catches nothing conducts itself where the answers to its calls do. -/
theorem Parser.watched_conducts
    (hcalls : ∀ {α : Type} (c : Callee ρ σ τ ε α), c.CatchFree → ∀ s i, Conduct id (marked c s i))
    {p : Parser ρ σ τ ε Γ α} (hp : p.CatchFree) {env : Env ρ σ τ ε Γ} (henv : env.CatchFree) :
    (p.watched env).Conducts marked id := by
  have hdone : ∀ {α : Type} (a : Parsed σ τ α),
      (Process.done (.success a) : Process (Note ρ σ τ ε) σ τ ε _).Conducts marked id :=
    fun a => Process.conducts_done rfl
  induction p with
  | item => exact Action.conducts_item.within rfl
  | error payload => exact Action.conducts_within_error _ payload
  | zero => exact .within rfl fun _ _ => Process.conducts_done rfl
  | fault reason => exact .within rfl fun _ _ => Conduct.fault reason
  | pure | get | put | getState | putState => exact .within rfl fun _ _ => hdone _
  | updateState update => exact (Action.conducts_updateState update).within rfl
  | map f p ih => exact ((ih hp henv).map f).within rfl
  | bind p next ih ihNext =>
    exact ((ih hp.1 henv).bind fun a => ihNext a (hp.2 a) henv).within rfl
  | check accept p ih => exact ((ih hp henv).check accept).within rfl
  | tuple n types parts make ih =>
    exact Action.Conducts.within rfl (.tuple (fun k => ih k (hp k) henv) make)
  | sequence n parts ih =>
    refine .within rfl (.sequence fun a ha => ?_)
    obtain ⟨k,rfl⟩ := List.mem_ofFn.mp ha
    exact ih k (hp k) henv
  | plus p q ihp ihq => exact ((ihp hp.1 henv).plus (ihq hp.2 henv)).within rfl
  | choice n parts ih =>
    refine .within rfl (.choice fun a ha => ?_)
    obtain ⟨k,rfl⟩ := List.mem_ofFn.mp ha
    exact ih k (hp k) henv
  | many0 p ih => exact Action.Conducts.within rfl fun s i => (ih hp henv).many0From [] s i
  | maybe p ih => exact (ih hp henv).maybe.within rfl
  | not0 p ih => exact (ih hp henv).not0.within rfl
  | lookahead p ih => exact (ih hp henv).lookahead.within rfl
  | commit payload p ih => exact ((ih hp henv).commit payload).within rfl
  | catchError p handler => exact hp.elim
  | mapError f p ih => exact ((ih hp henv).mapError f).within rfl
  | recursive body ih => exact Action.Conducts.within rfl (ih hp ⟨hp,henv⟩)
  | placeholder slot => exact .within rfl (.call (hcalls _ (henv.callee slot)))
  | rule name => exact .within rfl (.call (hcalls _ trivial))
  | trial p state tokens => exact hp.elim

variable {G : Grammar ρ σ τ ε}

/-- Calls are answered as they should, at every depth. -/
lemma Grammar.watch_conduct (hG : ∀ name, (G name).CatchFree) (n : ℕ) {c : Callee ρ σ τ ε α}
    (hc : c.CatchFree) (s : σ) (i : Stream τ) : Conduct id (G.watch n c s i) := by
  induction n generalizing α s i with
  | zero => exact .cut
  | succ n ih =>
    have hcalls : ∀ {α : Type} (c : Callee ρ σ τ ε α), c.CatchFree → ∀ s i,
        Conduct id (G.watch n c s i) := fun c hc s i => ih hc s i
    cases c with
    | defined body outer =>
      have henv : (Env.define body outer).CatchFree := hc
      exact Parser.watched_conducts hcalls hc.1 henv s i
    | rule name =>
      have henv : (Env.empty : Env ρ σ τ ε []).CatchFree := trivial
      exact Parser.watched_conducts hcalls (hG name) henv s i

end Backtrack
