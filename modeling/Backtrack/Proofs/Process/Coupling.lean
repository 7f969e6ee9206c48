import Backtrack.Proofs.Process.Trail
import Mathlib.Data.List.Forall2

/-!
Two runs side by side. A coupling says which places of two runs correspond, a place being a state
and a stream. Each way to build an action keeps two runs coupled where its parts do, so what holds
of coupled runs is proved from the parts that touch state or tokens. An invariant of one run is a
coupling of the run with itself.
-/
namespace Backtrack

variable {σ σ' τ ε : Type} {α β γ δ : Type}

/-- Events that report the same, at offsets that correspond. -/
inductive Event.Alike (offsets : ℕ → ℕ → Prop) : Event → Event → Prop
  | run (tokens : ℕ) : Alike offsets (.run tokens) (.run tokens)
  | runFinished (verdict : Verdict) (consumed : ℕ) :
      Alike offsets (.runFinished verdict consumed) (.runFinished verdict consumed)
  | item {m n : ℕ} (h : offsets m n) : Alike offsets (.item m) (.item n)
  | plusBacktrack {m n : ℕ} (h : offsets m n) :
      Alike offsets (.plusBacktrack m) (.plusBacktrack n)
  | altBacktrack (index : ℕ) {m n : ℕ} (h : offsets m n) :
      Alike offsets (.altBacktrack index m) (.altBacktrack index n)
  | many0Done (count : ℕ) {m n : ℕ} (h : offsets m n) :
      Alike offsets (.many0Done count m) (.many0Done count n)
  | commitEscalated {m n : ℕ} (h : offsets m n) :
      Alike offsets (.commitEscalated m) (.commitEscalated n)

/-- The same fault, at offsets that correspond. -/
inductive Fault.Alike (offsets : ℕ → ℕ → Prop) : Fault → Fault → Prop
  | stalled {m n : ℕ} (h : offsets m n) : Alike offsets (.stalled m) (.stalled n)
  | same {reason : Fault} (h : ∀ offset, reason ≠ .stalled offset) : Alike offsets reason reason

lemma Fault.Alike.refl {offsets : ℕ → ℕ → Prop} (h : ∀ n, offsets n n) (reason : Fault) :
    Fault.Alike offsets reason reason := by
  cases reason with
  | stalled offset => exact .stalled (h offset)
  | dropped | unfinished | overflow => exact .same fun _ => by simp

/-- Replies of one kind: successes at places and with values that correspond, failures, or errors
that correspond. -/
inductive Reply.Alike (places : σ → Stream τ → σ' → Stream τ → Prop) (errors : ε → ε → Prop)
    (values : α → α → Prop) : Reply σ τ ε α → Reply σ' τ ε α → Prop
  | success {r : Parsed σ τ α} {r' : Parsed σ' τ α}
      (hplace : places r.state r.rest r'.state r'.rest) (hvalue : values r.value r'.value) :
      Alike places errors values (.success r) (.success r')
  | failure : Alike places errors values .failure .failure
  | error {e e' : ε} (h : errors e e') : Alike places errors values (.error e) (.error e')

/-- Reports of two evaluations that report the same and end in the same way. -/
inductive Report.Alike (offsets : ℕ → ℕ → Prop) (answers : α → β → Prop) :
    Report α → Report β → Prop
  | answer {a : α} {b : β} {events events' : List Event} (h : answers a b)
      (hevents : List.Forall₂ (Event.Alike offsets) events events') :
      Alike offsets answers ⟨.ok a,events⟩ ⟨.ok b,events'⟩
  | fault {reason reason' : Fault} {events events' : List Event}
      (h : Fault.Alike offsets reason reason')
      (hevents : List.Forall₂ (Event.Alike offsets) events events') :
      Alike offsets answers ⟨.error reason,events⟩ ⟨.error reason',events'⟩

/-- Which places, offsets and errors of two runs correspond. A fault that is excused may end the
second run apart from the first. -/
structure Coupling (σ σ' τ ε : Type) where
  places : σ → Stream τ → σ' → Stream τ → Prop
  offsets : ℕ → ℕ → Prop
  errors : ε → ε → Prop
  excused : Fault → Prop
  length_eq : ∀ {s i s' i'}, places s i s' i' → i.length = i'.length
  offsets_of_places : ∀ {s i s' i'}, places s i s' i' → offsets i.offset i'.offset

namespace Coupling

variable (c : Coupling σ σ' τ ε)

abbrev Replies (values : α → α → Prop) : Reply σ τ ε α → Reply σ' τ ε α → Prop :=
  Reply.Alike c.places c.errors values

/-- Trails that note the same and end in the same way, unless the second ends in a fault that is
excused. -/
inductive Trails (answers : α → β → Prop) : Trail Event α → Trail Event β → Prop
  | answer {a : α} {b : β} {notes notes' : List Event} (h : answers a b)
      (hnotes : List.Forall₂ (Event.Alike c.offsets) notes notes') :
      Trails answers ⟨notes,.answer a⟩ ⟨notes',.answer b⟩
  | fault {reason reason' : Fault} {notes notes' : List Event}
      (h : Fault.Alike c.offsets reason reason')
      (hnotes : List.Forall₂ (Event.Alike c.offsets) notes notes') :
      Trails answers ⟨notes,.fault reason⟩ ⟨notes',.fault reason'⟩
  | cut {notes notes' : List Event}
      (hnotes : List.Forall₂ (Event.Alike c.offsets) notes notes') :
      Trails answers ⟨notes,.cut⟩ ⟨notes',.cut⟩
  | excused {reason : Fault} (h : c.excused reason) (w : Trail Event α) (notes : List Event) :
      Trails answers w ⟨notes,.fault reason⟩

variable {c}

namespace Trails

variable {P : α → β → Prop} {Q : γ → δ → Prop} {w : Trail Event α} {w' : Trail Event β}

lemma mono {P' : α → β → Prop} (h : c.Trails P w w') (hP : ∀ a b, P a b → P' a b) :
    c.Trails P' w w' := by
  cases h with
  | answer h hnotes => exact .answer (hP _ _ h) hnotes
  | fault h hnotes => exact .fault h hnotes
  | cut hnotes => exact .cut hnotes
  | excused h w notes => exact .excused h w notes

lemma after {notes notes' : List Event} (hnotes : List.Forall₂ (Event.Alike c.offsets) notes notes')
    (h : c.Trails P w w') :
    c.Trails P ⟨notes ++ w.notes,w.ending⟩ ⟨notes' ++ w'.notes,w'.ending⟩ := by
  cases h with
  | answer h hrest => exact .answer h (List.rel_append hnotes hrest)
  | fault h hrest => exact .fault h (List.rel_append hnotes hrest)
  | cut hrest => exact .cut (List.rel_append hnotes hrest)
  | excused h w rest => exact .excused h _ _

/-- Continuations that go on alike from alike answers keep the trails alike. -/
theorem bind {k : α → Trail Event γ} {k' : β → Trail Event δ} (h : c.Trails P w w')
    (hk : ∀ a b, P a b → c.Trails Q (k a) (k' b)) : c.Trails Q (w.bind k) (w'.bind k') := by
  cases h with
  | answer h hnotes => exact (hk _ _ h).after hnotes
  | fault h hnotes => exact .fault h hnotes
  | cut hnotes => exact .cut hnotes
  | excused h w notes => exact .excused h _ _

end Trails

/-! Actions under a coupling, where calls are answered in given ways. -/
section

variable {κ κ' : Type → Type 1} (c) (calls : Answers κ σ τ ε Event)
  (calls' : Answers κ' σ' τ ε Event)

def Processes (Q : α → β → Prop) (p : Process κ σ τ ε α) (p' : Process κ' σ' τ ε β) : Prop :=
  c.Trails Q (p.follow id calls) (p'.follow id calls')

/-- From places that correspond, the actions do the same and answer alike. -/
def Actions (values : α → α → Prop) (a : Action κ σ τ ε α) (a' : Action κ' σ' τ ε α) : Prop :=
  ∀ s i s' i', c.places s i s' i' → c.Processes calls calls' (c.Replies values) (a s i) (a' s' i')

end

variable {κ κ' : Type → Type 1} {calls : Answers κ σ τ ε Event} {calls' : Answers κ' σ' τ ε Event}

namespace Processes

variable {P : α → β → Prop} {Q : γ → δ → Prop}

lemma done {a : α} {b : β} (h : P a b) :
    c.Processes calls calls' P (.done a : Process κ σ τ ε α) (.done b) :=
  .answer h .nil

lemma fault {reason reason' : Fault} (h : Fault.Alike c.offsets reason reason') :
    c.Processes calls calls' P (.fault reason : Process κ σ τ ε α) (.fault reason') :=
  Trails.fault h .nil

lemma emit {event event' : Event} {next : Unit → Process κ σ τ ε α}
    {next' : Unit → Process κ' σ' τ ε β} (hevent : Event.Alike c.offsets event event')
    (h : c.Processes calls calls' P (next ()) (next' ())) :
    c.Processes calls calls' P (.emit event next) (.emit event' next') :=
  Trails.after (.cons hevent .nil) h

lemma bind {p : Process κ σ τ ε α} {p' : Process κ' σ' τ ε β} {k : α → Process κ σ τ ε γ}
    {k' : β → Process κ' σ' τ ε δ} (h : c.Processes calls calls' P p p')
    (hk : ∀ a b, P a b → c.Processes calls calls' Q (k a) (k' b)) :
    c.Processes calls calls' Q (p.bind k) (p'.bind k') := by
  rw [Processes,Process.follow_bind,Process.follow_bind]
  exact Trails.bind h hk

lemma map {p : Process κ σ τ ε α} {p' : Process κ' σ' τ ε β} {f : α → γ} {f' : β → δ}
    (h : c.Processes calls calls' P p p') (hf : ∀ a b, P a b → Q (f a) (f' b)) :
    c.Processes calls calls' Q (p.map f) (p'.map f') :=
  h.bind fun a b hab => done (hf a b hab)

end Processes

namespace Actions

variable {R : α → α → Prop} {S : β → β → Prop} {a : Action κ σ τ ε α} {a' : Action κ' σ' τ ε α}

lemma mono {R' : α → α → Prop} (h : c.Actions calls calls' R a a') (hR : ∀ x y, R x y → R' x y) :
    c.Actions calls calls' R' a a' := by
  intro s i s' i' hplace
  refine Trails.mono (h s i s' i' hplace) fun r r' hr => ?_
  cases hr with
  | success hplace hvalue => exact .success hplace (hR _ _ hvalue)
  | failure => exact .failure
  | error h => exact .error h

lemma pure {x x' : α} (h : R x x') :
    c.Actions calls calls' R (Action.pure x : Action κ σ τ ε α) (Action.pure x') :=
  fun _ _ _ _ hplace => .done (.success hplace h)

lemma zero : c.Actions calls calls' R (Action.zero : Action κ σ τ ε α) Action.zero :=
  fun _ _ _ _ _ => .done .failure

lemma error {e e' : ε} (h : c.errors e e') :
    c.Actions calls calls' R (Action.error e : Action κ σ τ ε α) (Action.error e') :=
  fun _ _ _ _ _ => .done (.error h)

/-- One token is consumed on both sides, or none is left on either. -/
lemma item {R : τ → τ → Prop}
    (hremaining : ∀ {s i s' i'}, c.places s i s' i' → List.Forall₂ R i.remaining i'.remaining)
    (hnext : ∀ {s i s' i' token rest}, c.places s i s' i' → i.remaining = token :: rest →
      c.places s (i.advance 1) s' (i'.advance 1)) :
    c.Actions calls calls' R (Action.item : Action κ σ τ ε τ) Action.item := by
  intro s i s' i' hplace
  have h := hremaining hplace
  cases hi : i.remaining with
  | nil =>
    have hi' : i'.remaining = [] := List.forall₂_nil_left_iff.mp (hi ▸ h)
    rw [Action.item_nil hi,Action.item_nil hi']
    exact .done .failure
  | cons token rest =>
    obtain ⟨token',rest',htoken,-,hi'⟩ := List.forall₂_cons_left_iff.mp (hi ▸ h)
    rw [Action.item_cons hi,Action.item_cons hi']
    exact .emit (.item (c.offsets_of_places hplace)) (.done (.success (hnext hplace hi) htoken))

lemma map {f f' : α → β} (h : c.Actions calls calls' R a a') (hf : ∀ x y, R x y → S (f x) (f' y)) :
    c.Actions calls calls' S (a.map f) (a'.map f') := by
  intro s i s' i' hplace
  refine (h s i s' i' hplace).map fun r r' hr => ?_
  cases hr with
  | success hplace hvalue => exact .success hplace (hf _ _ hvalue)
  | failure => exact .failure
  | error h => exact .error h

lemma andThen {next : Parsed σ τ α → Process κ σ τ ε (Reply σ τ ε β)}
    {next' : Parsed σ' τ α → Process κ' σ' τ ε (Reply σ' τ ε β)}
    (h : c.Actions calls calls' R a a')
    (hnext : ∀ r r', c.places r.state r.rest r'.state r'.rest → R r.value r'.value →
      c.Processes calls calls' (c.Replies S) (next r) (next' r')) :
    c.Actions calls calls' S (a.andThen next) (a'.andThen next') := by
  intro s i s' i' hplace
  refine (h s i s' i' hplace).bind fun r r' hr => ?_
  cases hr with
  | success hplace hvalue => exact hnext _ _ hplace hvalue
  | failure => exact .done .failure
  | error h => exact .done (.error h)

lemma bind {next : α → Action κ σ τ ε β} {next' : α → Action κ' σ' τ ε β}
    (h : c.Actions calls calls' R a a')
    (hnext : ∀ x y, R x y → c.Actions calls calls' S (next x) (next' y)) :
    c.Actions calls calls' S (a.bind next) (a'.bind next') :=
  h.andThen fun _ _ hplace hvalue => hnext _ _ hvalue _ _ _ _ hplace

lemma check {accept accept' : α → Bool} (h : c.Actions calls calls' R a a')
    (haccept : ∀ x y, R x y → accept x = accept' y) :
    c.Actions calls calls' R (a.check accept) (a'.check accept') := by
  refine h.andThen fun r r' hplace hvalue => .done ?_
  rw [haccept _ _ hvalue]
  split
  · exact .success hplace hvalue
  · exact .failure

/-- Tuples of actions that are alike, where values that correspond part by part make values that
correspond. -/
lemma tuple {n : ℕ} {types : Fin n → Type} {R : (k : Fin n) → types k → types k → Prop}
    {actions : (k : Fin n) → Action κ σ τ ε (types k)}
    {actions' : (k : Fin n) → Action κ' σ' τ ε (types k)} {make make' : ((k : Fin n) → types k) → β}
    (h : ∀ k, c.Actions calls calls' (R k) (actions k) (actions' k))
    (hmake : ∀ x y, (∀ k, R k (x k) (y k)) → S (make x) (make' y)) :
    c.Actions calls calls' S (Action.tuple n types actions make)
      (Action.tuple n types actions' make') := by
  induction n with
  | zero => exact pure (hmake _ _ fun k => k.elim0)
  | succ n ih =>
    refine (h 0).bind fun x y hxy => ih (fun k => h k.succ) fun values values' hvalues => ?_
    exact hmake _ _ fun k => k.cases hxy hvalues

lemma sequence {actions : List (Action κ σ τ ε α)} {actions' : List (Action κ' σ' τ ε α)}
    (h : List.Forall₂ (c.Actions calls calls' R) actions actions') :
    c.Actions calls calls' (List.Forall₂ R) (Action.sequence actions)
      (Action.sequence actions') := by
  have hfrom : ∀ values values', List.Forall₂ R values values' →
      c.Actions calls calls' (List.Forall₂ R) (Action.sequenceFrom values actions)
        (Action.sequenceFrom values' actions') := by
    induction h with
    | nil => exact fun _ _ hvalues => pure (List.rel_reverse hvalues)
    | cons ha _ ih =>
      exact fun _ _ hvalues => ha.andThen fun r r' hplace hvalue =>
        ih _ _ (.cons hvalue hvalues) _ _ _ _ hplace
  exact hfrom [] [] .nil

lemma orElse {other : Action κ σ τ ε α} {other' : Action κ' σ' τ ε α}
    (ha : c.Actions calls calls' R a a') (hother : c.Actions calls calls' R other other') :
    c.Actions calls calls' R (a.orElse other) (a'.orElse other') := by
  intro s i s' i' hplace
  refine (ha s i s' i' hplace).bind fun r r' hr => ?_
  cases hr with
  | success hplace hvalue => exact .done (.success hplace hvalue)
  | failure => exact hother s i s' i' hplace
  | error h => exact .done (.error h)

lemma announcing {event event' : Stream τ → Event} (ha : c.Actions calls calls' R a a')
    (hevent : ∀ i i', c.offsets i.offset i'.offset → Event.Alike c.offsets (event i) (event' i')) :
    c.Actions calls calls' R (a.announcing event) (a'.announcing event') :=
  fun s i s' i' hplace => (ha s i s' i' hplace).emit (hevent i i' (c.offsets_of_places hplace))

lemma plus {b : Action κ σ τ ε α} {b' : Action κ' σ' τ ε α} (ha : c.Actions calls calls' R a a')
    (hb : c.Actions calls calls' R b b') : c.Actions calls calls' R (a.plus b) (a'.plus b') :=
  ha.orElse (hb.announcing fun _ _ => .plusBacktrack)

lemma choice {actions : List (Action κ σ τ ε α)} {actions' : List (Action κ' σ' τ ε α)}
    (h : List.Forall₂ (c.Actions calls calls' R) actions actions') :
    c.Actions calls calls' R (Action.choice actions) (Action.choice actions') := by
  have hfrom : ∀ index, c.Actions calls calls' R (Action.choiceFrom index actions)
      (Action.choiceFrom index actions') := by
    induction h with
    | nil => exact fun _ => zero
    | cons ha _ ih =>
      exact fun index => ha.orElse ((ih _).announcing fun _ _ => .altBacktrack index)
  exact hfrom 0

/-- The rounds of two repetitions, by the length that both have before them. -/
lemma many0From (h : c.Actions calls calls' R a a') {values values' : List α}
    (hvalues : List.Forall₂ R values values') {s : σ} {i : Stream τ} {s' : σ'} {i' : Stream τ}
    (hplace : c.places s i s' i') :
    c.Processes calls calls' (c.Replies (List.Forall₂ R)) (Action.many0From a values s i)
      (Action.many0From a' values' s' i') := by
  induction hn : i.length using Nat.strongRecOn generalizing values values' s i s' i' with
  | _ n ih =>
    rw [Action.many0From,Action.many0From]
    refine (h s i s' i' hplace).bind fun r r' hr => ?_
    cases hr with
    | failure =>
      rw [hvalues.length_eq]
      exact .emit (.many0Done _ (c.offsets_of_places hplace))
        (.done (.success hplace (List.rel_reverse hvalues)))
    | error h => exact .done (.error h)
    | @success r r' hafter hvalue =>
      -- both rounds shorten the input, or both stall at offsets that correspond
      have hlt : r'.rest.length < i'.length ↔ r.rest.length < i.length := by
        rw [c.length_eq hplace,c.length_eq hafter]
      by_cases hr : r.rest.length < i.length
      · simp only [hr,hlt.mpr hr,if_true]
        exact ih _ (hn ▸ hr) (.cons hvalue hvalues) hafter rfl
      · simp only [hr,mt hlt.mp hr,if_false]
        exact .fault (.stalled (c.offsets_of_places hplace))

lemma many0 (h : c.Actions calls calls' R a a') :
    c.Actions calls calls' (List.Forall₂ R) a.many0 a'.many0 :=
  fun _ _ _ _ hplace => h.many0From .nil hplace

lemma maybe (h : c.Actions calls calls' R a a') :
    c.Actions calls calls' (Option.Rel R) a.maybe a'.maybe :=
  (h.map fun _ _ hvalue => .some hvalue).orElse (pure .none)

lemma not0 (h : c.Actions calls calls' R a a') {S : Unit → Unit → Prop} (hunit : S () ()) :
    c.Actions calls calls' S a.not0 a'.not0 := by
  intro s i s' i' hplace
  refine (h s i s' i' hplace).map fun r r' hr => ?_
  cases hr with
  | success => exact .failure
  | failure => exact .success hplace hunit
  | error h => exact .error h

lemma lookahead (h : c.Actions calls calls' R a a')
    (hrewind : ∀ {s i t j s' i' t' j'}, c.places s i s' i' → c.places t j t' j' →
      c.places t i t' i') :
    c.Actions calls calls' R a.lookahead a'.lookahead := by
  intro s i s' i' hplace
  refine (h s i s' i' hplace).map fun r r' hr => ?_
  cases hr with
  | success hafter hvalue => exact .success (hrewind hplace hafter) hvalue
  | failure => exact .failure
  | error h => exact .error h

lemma commit {e e' : ε} (h : c.Actions calls calls' R a a') (herror : c.errors e e') :
    c.Actions calls calls' R (a.commit e) (a'.commit e') :=
  h.orElse ((error herror).announcing fun _ _ => .commitEscalated)

lemma catchError {handler : ε → Action κ σ τ ε α} {handler' : ε → Action κ' σ' τ ε α}
    (h : c.Actions calls calls' R a a')
    (hhandler : ∀ e e', c.errors e e' → c.Actions calls calls' R (handler e) (handler' e')) :
    c.Actions calls calls' R (a.catchError handler) (a'.catchError handler') := by
  intro s i s' i' hplace
  refine (h s i s' i' hplace).bind fun r r' hr => ?_
  cases hr with
  | success hplace hvalue => exact .done (.success hplace hvalue)
  | failure => exact .done .failure
  | error h => exact hhandler _ _ h s i s' i' hplace

lemma mapError {f f' : ε → ε} (h : c.Actions calls calls' R a a')
    (hf : ∀ e e', c.errors e e' → c.errors (f e) (f' e')) :
    c.Actions calls calls' R (a.mapError f) (a'.mapError f') := by
  intro s i s' i' hplace
  refine (h s i s' i' hplace).map fun r r' hr => ?_
  cases hr with
  | success hplace hvalue => exact .success hplace hvalue
  | failure => exact .failure
  | error h => exact .error (hf _ _ h)

lemma call {k : κ α} {k' : κ' α} (h : ∀ s i s' i', c.places s i s' i' →
    c.Trails (c.Replies R) (calls k s i) (calls' k' s' i')) :
    c.Actions calls calls' R (Action.call k) (Action.call k') := by
  intro s i s' i' hplace
  show c.Trails _ ((calls k s i).bind .pure) ((calls' k' s' i').bind .pure)
  rw [Trail.bind_pure,Trail.bind_pure]
  exact h s i s' i' hplace

/-- Whole runs report the same length at the beginning and the same consumption at the end. -/
lemma run (h : c.Actions calls calls' R a a') : c.Actions calls calls' R a.run a'.run := by
  intro s i s' i' hplace
  have hlength := c.length_eq hplace
  have hrun : Event.Alike c.offsets (.run i.length) (.run i'.length) := hlength ▸ .run _
  refine .emit hrun ((h s i s' i' hplace).bind fun r r' hr => ?_)
  have hreply : r.verdict = r'.verdict ∧ Action.consumed i r = Action.consumed i' r' := by
    cases hr with
    | success hafter _ =>
      refine ⟨rfl,?_⟩
      show i.length - _ = i'.length - _
      rw [hlength,c.length_eq hafter]
    | failure => exact ⟨rfl,rfl⟩
    | error _ => exact ⟨rfl,rfl⟩
  rw [hreply.1,hreply.2]
  exact .emit (.runFinished _ _) (.done hr)

end Actions
end Coupling
end Backtrack
