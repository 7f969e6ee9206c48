import Backtrack.Proofs.Process.Ends
import Backtrack.Proofs.Process.Shape

/-!
Processes that end alike. One process stays below another up to a depth of calls if every end that
it is followed to within the depth is an end of the other, at whatever depth; if each stays below
the other, they agree up to the depth. What is built from parts that agree agrees, and processes
that agree up to every depth yield the same.
-/
namespace Backtrack

variable {ρ : Rules} {σ τ ε : Type} {α β γ : Type}

namespace Process

variable (G : Grammar ρ σ τ ε)

/-- Every end of `p` within a depth of calls is an end of `q`. -/
def Below (n : ℕ) (p q : Process (Callee ρ σ τ ε) σ τ ε β) : Prop :=
  ∀ events result, p.follow id (G.answers n) = ⟨events,.ofExcept result⟩ →
    q.Yields G events result

/-- Every end of one of the processes within a depth of calls is an end of the other. -/
def Agree (n : ℕ) (p q : Process (Callee ρ σ τ ε) σ τ ε β) : Prop :=
  p.Below G n q ∧ q.Below G n p

variable {G} {m n : ℕ} {p q : Process (Callee ρ σ τ ε) σ τ ε β}

lemma Below.mono (h : p.Below G n q) (hmn : m ≤ n) : p.Below G m q :=
  fun events result hp => h events result (follow_eq_of_le hmn hp)

lemma Below.bind {k l : β → Process (Callee ρ σ τ ε) σ τ ε γ} (h : p.Below G n q)
    (hk : ∀ b, (k b).Below G n (l b)) : (p.bind k).Below G n (q.bind l) := by
  intro events result hbind
  rw [follow_bind] at hbind
  rcases Trail.bind_eq_iff.mp hbind with ⟨before,b,after,hp,hb,rfl⟩ | ⟨reason,hp,rfl⟩
  · exact (h _ _ hp).bind (hk b _ _ hb)
  · exact (h _ _ hp).bind_fault l

namespace Agree

lemma refl (p : Process (Callee ρ σ τ ε) σ τ ε β) : p.Agree G n p :=
  ⟨fun _ _ hp => yields_of_follow hp,fun _ _ hp => yields_of_follow hp⟩

lemma symm (h : p.Agree G n q) : q.Agree G n p := ⟨h.2,h.1⟩

lemma mono (h : p.Agree G n q) (hmn : m ≤ n) : p.Agree G m q := ⟨h.1.mono hmn,h.2.mono hmn⟩

lemma emit {event : Event} {next next' : Unit → Process (Callee ρ σ τ ε) σ τ ε β}
    (h : (next ()).Agree G n (next' ())) : (emit event next).Agree G n (emit event next') := by
  have hbelow : ∀ {next next' : Unit → Process (Callee ρ σ τ ε) σ τ ε β},
      (next ()).Below G n (next' ()) →
        (Process.emit event next).Below G n (Process.emit event next') := by
    intro next next' h events result hp
    obtain ⟨rfl,hnext⟩ : event :: _ = events ∧ _ := by simpa [follow,Trail.noting] using hp
    exact .emit event (h _ _ (by rw [← hnext]))
  exact ⟨hbelow h.1,hbelow h.2⟩

lemma bind {k l : β → Process (Callee ρ σ τ ε) σ τ ε γ} (h : p.Agree G n q)
    (hk : ∀ b, (k b).Agree G n (l b)) : (p.bind k).Agree G n (q.bind l) :=
  ⟨h.1.bind fun b => (hk b).1,h.2.bind fun b => (hk b).2⟩

end Agree

/-- Processes that agree up to every depth yield the same. -/
theorem yields_iff_of_agree (h : ∀ n, p.Agree G n q) {events : List Event}
    {result : Except Fault β} : p.Yields G events result ↔ q.Yields G events result := by
  constructor
  · intro hp
    obtain ⟨n,hn⟩ := hp.follow_eq
    exact (h n).1 events result hn
  · intro hq
    obtain ⟨n,hn⟩ := hq.follow_eq
    exact (h n).2 events result hn

/-- Processes that yield the same agree. -/
lemma agree_of_yields_iff
    (h : ∀ events result, p.Yields G events result ↔ q.Yields G events result) : p.Agree G n q :=
  ⟨fun _ _ hp => (h _ _).mp (yields_of_follow hp),fun _ _ hq => (h _ _).mpr (yields_of_follow hq)⟩

/-- A call yields what its callee does. -/
theorem yields_call_iff {callee : Callee ρ σ τ ε α} {s : σ} {i : Stream τ} {events : List Event}
    {result : Except Fault (Reply σ τ ε α)} :
    (Action.call callee s i).Yields G events result ↔
      (callee.action G s i).Yields G events result := by
  constructor
  · intro h
    cases h with
    | call answer rest =>
      cases rest
      rw [List.append_nil]
      exact answer
    | callFault answer => exact answer
  · intro h
    cases result with
    | ok reply => exact List.append_nil events ▸ .call h (.done reply)
    | error reason => exact .callFault h

end Process

namespace Action

variable {G : Grammar ρ σ τ ε} {m n : ℕ}

/-- The actions agree from every state and input. -/
def Agree (G : Grammar ρ σ τ ε) (n : ℕ) (a b : Action (Callee ρ σ τ ε) σ τ ε α) : Prop :=
  ∀ s i, (a s i).Agree G n (b s i)

namespace Agree

variable {a b : Action (Callee ρ σ τ ε) σ τ ε α}

lemma refl (a : Action (Callee ρ σ τ ε) σ τ ε α) : a.Agree G n a := fun _ _ => .refl _

lemma symm (h : a.Agree G n b) : b.Agree G n a := fun s i => (h s i).symm

lemma mono (h : a.Agree G n b) (hmn : m ≤ n) : a.Agree G m b := fun s i => (h s i).mono hmn

/-- A combinator takes parts that agree to actions that agree. -/
theorem shape {ι : Type} {Out : ι → Type} {parts parts' : (k : ι) → Action _ σ τ ε (Out k)}
    (h : ∀ k, (parts k).Agree G n (parts' k)) (a : Action (Hole Out) σ τ ε β) :
    (a.graft (Hole.fill parts)).Agree G n (a.graft (Hole.fill parts')) := by
  intro s i
  have hprocess : ∀ {γ : Type} (p : Process (Hole Out) σ τ ε γ),
      (p.graft (Hole.fill parts)).Agree G n (p.graft (Hole.fill parts')) := by
    intro γ p
    induction p with
    | done b => exact .refl _
    | fault reason => exact .refl _
    | emit event next ih => exact .emit (ih ())
    | call k s i next ih =>
      cases k with
      | part k => exact (h k s i).bind ih
  exact hprocess (a s i)

variable {c d : Action (Callee ρ σ τ ε) σ τ ε α}

lemma map (h : a.Agree G n b) (f : α → β) : (a.map f).Agree G n (b.map f) := by
  simpa using shape (fun _ : Unit => h) (.map f (.hole ()))

lemma andThen {next next' : Parsed σ τ α → Process (Callee ρ σ τ ε) σ τ ε (Reply σ τ ε β)}
    (h : a.Agree G n b) (hnext : ∀ r, (next r).Agree G n (next' r)) :
    (a.andThen next).Agree G n (b.andThen next') := by
  intro s i
  refine (h s i).bind fun r => ?_
  cases r with
  | success r => exact hnext r
  | failure => exact .refl _
  | error e => exact .refl _

lemma bind {next next' : α → Action (Callee ρ σ τ ε) σ τ ε β} (h : a.Agree G n b)
    (hnext : ∀ x, (next x).Agree G n (next' x)) : (a.bind next).Agree G n (b.bind next') :=
  h.andThen fun r => hnext r.value r.state r.rest

lemma check (h : a.Agree G n b) (accept : α → Bool) :
    (a.check accept).Agree G n (b.check accept) := by
  simpa using shape (fun _ : Unit => h) (.check accept (.hole ()))

lemma tuple {k : ℕ} {types : Fin k → Type}
    {parts parts' : (j : Fin k) → Action (Callee ρ σ τ ε) σ τ ε (types j)}
    (h : ∀ j, (parts j).Agree G n (parts' j)) (make : ((j : Fin k) → types j) → β) :
    (Action.tuple k types parts make).Agree G n (Action.tuple k types parts' make) := by
  simpa using shape h (.tuple k types (fun j => .hole j) make)

lemma sequence {k : ℕ} {parts parts' : Fin k → Action (Callee ρ σ τ ε) σ τ ε α}
    (h : ∀ j, (parts j).Agree G n (parts' j)) :
    (Action.sequence (List.ofFn parts)).Agree G n (Action.sequence (List.ofFn parts')) := by
  simpa [Function.comp_def] using shape h (.sequence (List.ofFn fun j => .hole j))

lemma plus (h : a.Agree G n b) (hc : c.Agree G n d) : (a.plus c).Agree G n (b.plus d) := by
  have hparts : ∀ k, (Bool.rec a c k : Action _ σ τ ε α).Agree G n (Bool.rec b d k) := by
    intro k
    cases k with
    | false => exact h
    | true => exact hc
  simpa using shape hparts ((Action.hole false).plus (Action.hole true))

lemma choice {k : ℕ} {parts parts' : Fin k → Action (Callee ρ σ τ ε) σ τ ε α}
    (h : ∀ j, (parts j).Agree G n (parts' j)) :
    (Action.choice (List.ofFn parts)).Agree G n (Action.choice (List.ofFn parts')) := by
  simpa [Function.comp_def] using shape h (.choice (List.ofFn fun j => .hole j))

lemma many0 (h : a.Agree G n b) : a.many0.Agree G n b.many0 := by
  simpa using shape (fun _ : Unit => h) (.many0 (.hole ()))

lemma maybe (h : a.Agree G n b) : a.maybe.Agree G n b.maybe := by
  simpa using shape (fun _ : Unit => h) (.maybe (.hole ()))

lemma not0 (h : a.Agree G n b) : a.not0.Agree G n b.not0 := by
  simpa using shape (fun _ : Unit => h) (.not0 (.hole ()))

lemma lookahead (h : a.Agree G n b) : a.lookahead.Agree G n b.lookahead := by
  simpa using shape (fun _ : Unit => h) (.lookahead (.hole ()))

lemma commit (h : a.Agree G n b) (payload : ε) :
    (a.commit payload).Agree G n (b.commit payload) := by
  simpa using shape (fun _ : Unit => h) (.commit payload (.hole ()))

lemma catchError {handler handler' : ε → Action (Callee ρ σ τ ε) σ τ ε α} (h : a.Agree G n b)
    (hhandler : ∀ e, (handler e).Agree G n (handler' e)) :
    (a.catchError handler).Agree G n (b.catchError handler') := by
  have hparts : ∀ k, (Option.rec a handler k : Action _ σ τ ε α).Agree G n
      (Option.rec b handler' k) := by
    intro k
    cases k with
    | none => exact h
    | some e => exact hhandler e
  simpa using shape hparts ((Action.hole none).catchError fun e => Action.hole (some e))

lemma mapError (h : a.Agree G n b) (f : ε → ε) : (a.mapError f).Agree G n (b.mapError f) := by
  simpa using shape (fun _ : Unit => h) (.mapError f (.hole ()))

lemma trial (h : a.Agree G n b) (state : σ) (tokens : Stream τ) :
    (a.trial state tokens).Agree G n (b.trial state tokens) := by
  simpa using shape (fun _ : Unit => h) (.trial (.hole ()) state tokens)

lemma run (h : a.Agree G n b) : a.run.Agree G n b.run := by
  simpa using shape (fun _ : Unit => h) (.run (.hole ()))

/-- Calls agree one level further up than their callees. -/
lemma call {c d : Callee ρ σ τ ε α} (h : (c.action G).Agree G n (d.action G)) :
    (Action.call c).Agree G (n + 1) (Action.call d) := by
  have hbelow : ∀ {c d : Callee ρ σ τ ε α}, (∀ s i, (c.action G s i).Below G n (d.action G s i)) →
      ∀ s i, (Action.call c s i).Below G (n + 1) (Action.call d s i) := by
    intro c d h s i events result hp
    have hcallee : (c.action G s i).follow id (G.answers n) = ⟨events,.ofExcept result⟩ := by
      refine Eq.trans ?_ hp
      exact (Trail.bind_pure _).symm
    exact Process.yields_call_iff.mpr (h s i _ _ hcallee)
  exact fun s i => ⟨hbelow (fun s i => (h s i).1) s i,hbelow (fun s i => (h s i).2) s i⟩

/-- A call does what its callee does. -/
lemma callee (c : Callee ρ σ τ ε α) : (Action.call c).Agree G n (c.action G) :=
  fun _ _ => Process.agree_of_yields_iff fun _ _ => Process.yields_call_iff

/-- No call ends within no depth at all. -/
lemma call_zero (c d : Callee ρ σ τ ε α) : (Action.call c).Agree G 0 (Action.call d) := by
  have hbelow : ∀ (c d : Callee ρ σ τ ε α) s i,
      (Action.call c s i).Below G 0 (Action.call d s i) := by
    intro c d s i events result hp
    have hending : Ending.cut = .ofExcept result := congrArg Trail.ending hp
    exact absurd hending.symm (Ending.ofExcept_ne_cut result)
  exact fun s i => ⟨hbelow c d s i,hbelow d c s i⟩

end Agree
end Action
end Backtrack
