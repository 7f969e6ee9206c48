import Backtrack.Proofs.Process.Ends
import Backtrack.Proofs.Process.Graft
import Backtrack.Proofs.Process.Trail

/-!
Runs under watch. Every parser that takes part in a run leaves a mark where it is entered and
another one, with its answer, where it is left. Without the marks a watched run is the run itself:
`Parser.ends_iff_watch`.
-/
namespace Backtrack

variable {ρ : Rules} {σ τ ε : Type} {Γ : List Type} {α β : Type}

/-- A parser over any placeholders, with values of any type. -/
structure AnyParser (ρ : Rules) (σ τ ε : Type) : Type 1 where
  {context : List Type}
  {value : Type}
  parser : Parser ρ σ τ ε context value

/-- What is seen of a run. -/
inductive Mark (ρ : Rules) (σ τ ε : Type) : Type 1
  | enter (p : AnyParser ρ σ τ ε)
  | leave (answer : Outcome Unit ε)
  | event (event : Event)

def Mark.event? : Mark ρ σ τ ε → Option Event
  | event e => some e
  | enter _ | leave _ => none

@[simp] theorem Mark.event?_event (e : Event) : (event e : Mark ρ σ τ ε).event? = some e := rfl

/-- The calls of a marked parser: self-references, and marks to be noted. -/
inductive Note (ρ : Rules) (σ τ ε : Type) : Type → Type 1
  | callee {α : Type} (c : Callee ρ σ τ ε α) : Note ρ σ τ ε α
  | enter (p : AnyParser ρ σ τ ε) : Note ρ σ τ ε Unit
  | leave (answer : Outcome Unit ε) : Note ρ σ τ ε Unit

/-- Act, with marks before and after. -/
def within (p : AnyParser ρ σ τ ε) (a : Action (Note ρ σ τ ε) σ τ ε α) :
    Action (Note ρ σ τ ε) σ τ ε α := fun s i =>
  .call (.enter p) s i fun _ => (a s i).bind fun reply =>
    .call (.leave (reply.map fun _ => ())) s i fun _ => .done reply

/-- The action of a parser, each of its parts within marks. -/
def Parser.marked {Γ : List Type} {α : Type} :
    Parser ρ σ τ ε Γ α → Env ρ σ τ ε Γ → Action (Note ρ σ τ ε) σ τ ε α
  | .item, _ => .item
  | .pure value, _ => .pure value
  | .zero, _ => .zero
  | .error payload, _ => .error payload
  | .fault reason, _ => fun _ _ => .fault reason
  | .get, _ => .get
  | .put tokens, _ => .put tokens
  | .getState, _ => .getState
  | .putState state, _ => .putState state
  | .updateState update, _ => .updateState update
  | .map f p, env => (within ⟨p⟩ (p.marked env)).map f
  | .bind p next, env =>
    (within ⟨p⟩ (p.marked env)).bind fun a => within ⟨next a⟩ ((next a).marked env)
  | .check accept p, env => (within ⟨p⟩ (p.marked env)).check accept
  | .tuple n types parts make, env =>
    .tuple n types (fun k => within ⟨parts k⟩ ((parts k).marked env)) make
  | .sequence _ parts, env =>
    .sequence (List.ofFn fun k => within ⟨parts k⟩ ((parts k).marked env))
  | .plus p q, env => (within ⟨p⟩ (p.marked env)).plus (within ⟨q⟩ (q.marked env))
  | .choice _ parts, env =>
    .choice (List.ofFn fun k => within ⟨parts k⟩ ((parts k).marked env))
  | .many0 p, env => (within ⟨p⟩ (p.marked env)).many0
  | .maybe p, env => (within ⟨p⟩ (p.marked env)).maybe
  | .not0 p, env => (within ⟨p⟩ (p.marked env)).not0
  | .lookahead p, env => (within ⟨p⟩ (p.marked env)).lookahead
  | .commit payload p, env => (within ⟨p⟩ (p.marked env)).commit payload
  | .catchError p handler, env =>
    (within ⟨p⟩ (p.marked env)).catchError fun e => within ⟨handler e⟩ ((handler e).marked env)
  | .mapError f p, env => (within ⟨p⟩ (p.marked env)).mapError f
  | .recursive body, env => within ⟨body⟩ (body.marked (.define body env))
  | .placeholder slot, env => .call (.callee (env.callee slot))
  | .rule name, _ => .call (.callee (.rule name))
  | .trial p state tokens, env => (within ⟨p⟩ (p.marked env)).trial state tokens

/-- The action of a parser within marks. -/
def Parser.watched (p : Parser ρ σ τ ε Γ α) (env : Env ρ σ τ ε Γ) :
    Action (Note ρ σ τ ε) σ τ ε α :=
  within ⟨p⟩ (p.marked env)

/-- What answers a call, within marks. -/
def Callee.watched (G : Grammar ρ σ τ ε) : Callee ρ σ τ ε α → Action (Note ρ σ τ ε) σ τ ε α
  | .defined body outer => body.watched (.define body outer)
  | .rule name => (G name).watched .empty

/-- Note the marks, and leave self-references to others. -/
def Note.answers (callees : Answers (Callee ρ σ τ ε) σ τ ε (Mark ρ σ τ ε)) :
    Answers (Note ρ σ τ ε) σ τ ε (Mark ρ σ τ ε)
  | _, enter p, s, i => ⟨[.enter p],.answer (.success ⟨s,i,()⟩)⟩
  | _, leave answer, s, i => ⟨[.leave answer],.answer (.success ⟨s,i,()⟩)⟩
  | _, callee c, s, i => callees c s i

/-- Answer self-references up to a depth, with the marks on the way. -/
def Grammar.watch (G : Grammar ρ σ τ ε) : ℕ → Answers (Callee ρ σ τ ε) σ τ ε (Mark ρ σ τ ε)
  | 0, _, _, _, _ => ⟨[],.cut⟩
  | n + 1, _, c, s, i => (c.watched G s i).follow .event (Note.answers (G.watch n))

/-- A whole run under watch, with calls up to a depth. -/
def Parser.watch (G : Grammar ρ σ τ ε) (depth : ℕ) (p : Parser ρ σ τ ε [] α) (s : σ)
    (i : Stream τ) : Trail (Mark ρ σ τ ε) (Reply σ τ ε α) :=
  ((p.watched .empty).run s i).follow .event (Note.answers (G.watch depth))

/-! Without marks. -/

/-- Drop the marks, and keep the calls. -/
def Note.unmark : Note ρ σ τ ε α → Action (Callee ρ σ τ ε) σ τ ε α
  | callee c => .call c
  | enter _ | leave _ => .pure ()

@[simp] theorem graft_within (p : AnyParser ρ σ τ ε) (a : Action (Note ρ σ τ ε) σ τ ε α) :
    (within p a).graft Note.unmark = a.graft Note.unmark := by
  funext s i
  simp only [Action.graft,within,Process.graft,Note.unmark,Action.pure,Process.done_bind,
    Process.graft_bind,Process.bind_done]

/-- Without the marks a parser acts as before. -/
theorem Parser.graft_marked (p : Parser ρ σ τ ε Γ α) (env : Env ρ σ τ ε Γ) :
    (p.marked env).graft Note.unmark = p.action env := by
  induction p with
  | item => exact Action.graft_item _
  | updateState update => exact Action.graft_updateState _ update
  | pure | zero | error | fault | get | put | getState | putState => rfl
  | map f p ih =>
    refine (Action.graft_map _ _ f).trans ?_
    rw [graft_within,ih,map_action]
  | bind p next ih ihNext =>
    refine (Action.graft_bindAction _ _ _).trans ?_
    simp only [graft_within,ih,ihNext,bind_action]
  | check accept p ih =>
    refine (Action.graft_check _ _ accept).trans ?_
    rw [graft_within,ih,check_action]
  | tuple n types parts make ih =>
    refine (Action.graft_tuple _ _ make).trans ?_
    simp only [graft_within,ih,tuple_action]
  | sequence n parts ih =>
    refine (Action.graft_sequence _ _).trans ?_
    simp only [List.map_ofFn,Function.comp_def,graft_within,ih,sequence_action]
  | plus p q ihp ihq =>
    refine (Action.graft_plus _ _ _).trans ?_
    rw [graft_within,graft_within,ihp,ihq,plus_action]
  | choice n parts ih =>
    refine (Action.graft_choice _ _).trans ?_
    simp only [List.map_ofFn,Function.comp_def,graft_within,ih,choice_action]
  | many0 p ih =>
    refine (Action.graft_many0 _ _).trans ?_
    rw [graft_within,ih,many0_action]
  | maybe p ih =>
    refine (Action.graft_maybe _ _).trans ?_
    rw [graft_within,ih,maybe_action]
  | not0 p ih =>
    refine (Action.graft_not0 _ _).trans ?_
    rw [graft_within,ih,not0_action]
  | lookahead p ih =>
    refine (Action.graft_lookahead _ _).trans ?_
    rw [graft_within,ih,lookahead_action]
  | commit payload p ih =>
    refine (Action.graft_commit _ _ payload).trans ?_
    rw [graft_within,ih,commit_action]
  | catchError p handler ih ihHandler =>
    refine (Action.graft_catchError _ _ _).trans ?_
    simp only [graft_within,ih,ihHandler,catchError_action]
  | mapError f p ih =>
    refine (Action.graft_mapError _ _ f).trans ?_
    rw [graft_within,ih,mapError_action]
  | recursive body ih => exact (graft_within _ _).trans (ih _)
  | placeholder slot => exact Action.graft_call _ _
  | rule name => exact Action.graft_call _ _
  | trial p state tokens ih =>
    refine (Action.graft_trial _ _ state tokens).trans ?_
    rw [graft_within,ih,trial_action]

@[simp] theorem Parser.graft_watched (p : Parser ρ σ τ ε Γ α) (env : Env ρ σ τ ε Γ) :
    (p.watched env).graft Note.unmark = p.action env := by
  rw [watched,graft_within,graft_marked]

theorem Callee.graft_watched (G : Grammar ρ σ τ ε) (c : Callee ρ σ τ ε α) :
    (c.watched G).graft Note.unmark = c.action G := by
  cases c with
  | defined body outer => exact body.graft_watched _
  | rule name => exact (G name).graft_watched _

/-- What remains of a watched run without its marks. -/
def Trail.unmark (w : Trail (Mark ρ σ τ ε) β) : Trail Event β :=
  ⟨w.notes.filterMap Mark.event?,w.ending⟩

theorem Trail.unmark_bind (w : Trail (Mark ρ σ τ ε) α) (f : α → Trail (Mark ρ σ τ ε) β) :
    (w.bind f).unmark = w.unmark.bind fun a => (f a).unmark := by
  obtain ⟨notes,ending⟩ := w
  cases ending <;> simp [unmark,bind]

/-- Marked answers that agree with plain ones can be followed with or without their marks. -/
lemma Process.follow_unmark {marked : Answers (Callee ρ σ τ ε) σ τ ε (Mark ρ σ τ ε)}
    {answers : Answers (Callee ρ σ τ ε) σ τ ε Event}
    (h : ∀ {α : Type} (c : Callee ρ σ τ ε α) s i, (marked c s i).unmark = answers c s i)
    (p : Process (Note ρ σ τ ε) σ τ ε β) :
    (p.follow .event (Note.answers marked)).unmark = (p.graft Note.unmark).follow id answers := by
  have hnote : ∀ {α : Type} (c : Note ρ σ τ ε α) s i,
      (Note.answers marked c s i).unmark = (c.unmark s i).follow id answers := by
    intro α c s i
    cases c with
    | enter p => rfl
    | leave answer => rfl
    | callee c =>
      show (marked c s i).unmark = (answers c s i).bind .pure
      rw [h,Trail.bind_pure]
  induction p with
  | done b => rfl
  | fault reason => rfl
  | emit event next ih =>
    simp only [follow,graft,← ih]
    rfl
  | call c s i next ih => simp only [follow,graft,Trail.unmark_bind,hnote,follow_bind,ih]

lemma Grammar.watch_unmark (G : Grammar ρ σ τ ε) (n : ℕ) (c : Callee ρ σ τ ε α) (s : σ)
    (i : Stream τ) : (G.watch n c s i).unmark = G.answers n c s i := by
  induction n generalizing α s i with
  | zero => rfl
  | succ n ih =>
    rw [watch,answers,Process.follow_unmark fun c s i => ih c s i,← c.graft_watched G]
    rfl

/-- A watched run is the run up to the same depth, with marks on the way. -/
theorem Parser.watch_unmark (G : Grammar ρ σ τ ε) (n : ℕ) (p : Parser ρ σ τ ε [] α) (s : σ)
    (i : Stream τ) : (p.watch G n s i).unmark = (p.run s i).follow id (G.answers n) := by
  rw [watch,Process.follow_unmark fun c s i => G.watch_unmark n c s i,run,
    ← p.graft_watched .empty,← Action.graft_run]
  rfl

/-- The machine ends a run as it ends under watch, with no call too deep. -/
theorem Parser.ends_iff_watch {G : Grammar ρ σ τ ε} {p : Parser ρ σ τ ε [] α} {s : σ}
    {i : Stream τ} {events : List Event} {result : Except Fault (Reply σ τ ε α)} :
    (p.run s i).config.Ends G ⟨result,events⟩ ↔
      ∃ n, (p.watch G n s i).unmark = ⟨events,.ofExcept result⟩ := by
  simp only [watch_unmark]
  rw [← Process.yields_iff_ends,Process.yields_iff_follow]

end Backtrack
