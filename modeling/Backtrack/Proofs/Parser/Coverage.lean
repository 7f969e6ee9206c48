import Backtrack.Proofs.Parser.Consumption
import Backtrack.Proofs.Process.Passing

/-!
No token is consumed unseen. While no tokens are put in place of the input, everything that is
reported lies within the buffer and not before the input, and the tokens that a success has consumed
are reported one after the other, whatever else is read and given up in between.
-/
namespace Backtrack

variable {ρ : Rules} {σ τ ε : Type} {Γ : List Type} {α β : Type}

/-- The place of the token that the event reports as consumed. -/
def Event.item? : Event → Option ℕ
  | item offset => some offset
  | _ => none

/-- The place that the event reports is not before `a`. A token is reported before `n`, and all
else not after `n`. -/
def Event.Within (a n : ℕ) : Event → Prop
  | item offset => a ≤ offset ∧ offset < n
  | plusBacktrack offset | altBacktrack _ offset | many0Done _ offset | commitEscalated offset =>
    a ≤ offset ∧ offset ≤ n
  | run _ | runFinished _ _ | check _ | readSource _ _ => True

lemma Event.Within.mono {a b n : ℕ} {event : Event} (h : event.Within b n) (hab : a ≤ b) :
    event.Within a n := by
  cases event with
  | item | plusBacktrack | altBacktrack | many0Done | commitEscalated =>
    exact ⟨Nat.le_trans hab h.1,h.2⟩
  | run | runFinished | check | readSource => trivial

/-- From `i` on, everything that is noted lies in the buffer, and the tokens that a success has
consumed are noted in order. -/
structure Trail.Covers (i : Stream τ) (w : Trail Event (Reply σ τ ε α)) : Prop where
  within : ∀ event ∈ w.notes, event.Within i.offset i.buffer.tokens.size
  consumed : ∀ r, w.ending = .answer (.success r) → i.Reaches r.rest ∧
    (List.range' i.offset (r.rest.offset - i.offset)).Sublist (w.notes.filterMap Event.item?)

namespace Trail.Covers

variable {i j : Stream τ} {w : Trail Event (Reply σ τ ε α)}
  {f : Reply σ τ ε α → Trail Event (Reply σ τ ε β)}

/-- Without a success there is nothing to cover. -/
lemma of_notes {notes : List Event} {ending : Ending (Reply σ τ ε α)}
    (h : ∀ event ∈ notes, event.Within i.offset i.buffer.tokens.size)
    (hending : ∀ r, ending ≠ .answer (.success r)) : Trail.Covers i ⟨notes,ending⟩ :=
  ⟨h,fun r hr => absurd hr (hending r)⟩

/-- To go on from the place that a success has come to. -/
lemma goOn {notes notes' : List Event} {r : Parsed σ τ α} {ending : Ending (Reply σ τ ε β)}
    (h : Trail.Covers i (⟨notes,.answer (.success r)⟩ : Trail Event (Reply σ τ ε α)))
    (h' : Trail.Covers r.rest ⟨notes',ending⟩) : Trail.Covers i ⟨notes ++ notes',ending⟩ := by
  obtain ⟨hreaches,hcovered⟩ := h.consumed r rfl
  have hle := hreaches.offset_le
  constructor
  · intro event hevent
    rcases List.mem_append.mp hevent with hevent | hevent
    · exact h.within event hevent
    · have hwithin := h'.within event hevent
      rw [hreaches.buffer_eq] at hwithin
      exact hwithin.mono hle
  · intro t ht
    obtain ⟨hreaches',hcovered'⟩ := h'.consumed t ht
    have hle' := hreaches'.offset_le
    refine ⟨hreaches.trans hreaches',?_⟩
    -- what was consumed is what was consumed first and then what was consumed from there on
    have hsplit : List.range' i.offset (t.rest.offset - i.offset) =
        List.range' i.offset (r.rest.offset - i.offset) ++
          List.range' r.rest.offset (t.rest.offset - r.rest.offset) := by
      have hstart : r.rest.offset = i.offset + (r.rest.offset - i.offset) := by omega
      have hcount : t.rest.offset - i.offset =
          (r.rest.offset - i.offset) + (t.rest.offset - r.rest.offset) := by omega
      rw [hcount,← List.range'_append_1,← hstart]
    rw [hsplit,List.filterMap_append]
    exact hcovered.append hcovered'

/-- To begin again from the same place. -/
lemma restart {notes notes' : List Event} {ending : Ending (Reply σ τ ε α)}
    (h : ∀ event ∈ notes, event.Within i.offset i.buffer.tokens.size)
    (h' : Trail.Covers i ⟨notes',ending⟩) : Trail.Covers i ⟨notes ++ notes',ending⟩ := by
  constructor
  · intro event hevent
    rcases List.mem_append.mp hevent with hevent | hevent
    · exact h event hevent
    · exact h'.within event hevent
  · intro r hr
    obtain ⟨hreaches,hcovered⟩ := h'.consumed r hr
    refine ⟨hreaches,?_⟩
    rw [List.filterMap_append]
    exact hcovered.trans (List.sublist_append_right _ _)

/-- To go on from where a success has come to, or else from the beginning again. -/
lemma bind (h : w.Covers i) (hsuccess : ∀ r, i.Reaches r.rest →
      (f (.success r)).Covers r.rest ∨ (f (.success r)).Covers i)
    (hfailure : (f .failure).Covers i) (herror : ∀ e, (f (.error e)).Covers i) :
    (w.bind f).Covers i := by
  obtain ⟨notes,ending⟩ := w
  cases ending with
  | cut => exact of_notes h.within (by simp)
  | fault reason => exact of_notes h.within (by simp)
  | answer reply =>
    cases reply with
    | failure => exact restart h.within hfailure
    | error e => exact restart h.within (herror e)
    | success r =>
      rcases hsuccess r (h.consumed r rfl).1 with hnext | hnext
      · exact h.goOn hnext
      · exact restart h.within hnext

lemma noting (h : w.Covers i) {event : Event}
    (hevent : event.Within i.offset i.buffer.tokens.size) : (w.noting event).Covers i := by
  show Trail.Covers i ⟨[event] ++ w.notes,w.ending⟩
  exact restart (by simpa using hevent) h

end Trail.Covers

section
variable {κ : Type → Type 1} (calls : Answers κ σ τ ε Event)

/-- What is followed of the process covers what it consumes from `i` on. -/
def Process.Covers (i : Stream τ) (p : Process κ σ τ ε (Reply σ τ ε α)) : Prop :=
  (p.follow id calls).Covers i

/-- What is followed of the action covers what it consumes, from every state and input. -/
def Action.Covers (a : Action κ σ τ ε α) : Prop := ∀ s i, i.Valid → (a s i).Covers calls i

end

variable {κ : Type → Type 1} {calls : Answers κ σ τ ε Event}

namespace Process

variable {i : Stream τ} {p : Process κ σ τ ε (Reply σ τ ε α)}

lemma covers_success (r : Parsed σ τ α) :
    (done (.success r) : Process κ σ τ ε (Reply σ τ ε α)).Covers calls r.rest := by
  refine ⟨fun event hevent => absurd hevent List.not_mem_nil,fun t ht => ?_⟩
  obtain rfl : r = t := by simpa [follow,Trail.pure] using ht
  exact ⟨.refl _,by simp⟩

lemma covers_failure : (done .failure : Process κ σ τ ε (Reply σ τ ε α)).Covers calls i :=
  .of_notes (by simp) (by simp)

lemma covers_error (e : ε) : (done (.error e) : Process κ σ τ ε (Reply σ τ ε α)).Covers calls i :=
  .of_notes (by simp) (by simp)

lemma covers_fault (reason : Fault) :
    (fault reason : Process κ σ τ ε (Reply σ τ ε α)).Covers calls i :=
  .of_notes (by simp) (by simp)

lemma Covers.emit (hp : p.Covers calls i) (event : Event)
    (hevent : event.Within i.offset i.buffer.tokens.size) :
    (emit event fun _ => p).Covers calls i :=
  Trail.Covers.noting hp hevent

lemma Covers.bind {k : Reply σ τ ε α → Process κ σ τ ε (Reply σ τ ε β)} (hp : p.Covers calls i)
    (hsuccess : ∀ r, i.Reaches r.rest →
      (k (.success r)).Covers calls r.rest ∨ (k (.success r)).Covers calls i)
    (hfailure : (k .failure).Covers calls i) (herror : ∀ e, (k (.error e)).Covers calls i) :
    (p.bind k).Covers calls i := by
  rw [Covers,follow_bind]
  exact Trail.Covers.bind hp hsuccess hfailure herror

end Process

namespace Action

open Process in
lemma covers_item : (item : Action κ σ τ ε τ).Covers calls := by
  intro s i hi
  cases hremaining : i.remaining with
  | nil =>
    rw [item_nil hremaining]
    exact covers_failure
  | cons token rest =>
    rw [item_cons hremaining]
    have hlength := Stream.length_eq_of_remaining hremaining
    simp only [Stream.length,List.length_cons] at hlength
    refine ⟨fun event hevent => ?_,fun r hr => ?_⟩
    · obtain rfl : event = .item i.offset := by simpa [follow,Trail.pure] using hevent
      exact ⟨Nat.le_refl _,by omega⟩
    · obtain rfl : _ = r := by simpa [follow,Trail.pure] using hr
      refine ⟨(Stream.Reaches.refl i).next hremaining,?_⟩
      simp [follow,Trail.pure,Stream.advance,Event.item?]

lemma covers_updateState (update : σ → Except Fault σ) :
    (updateState update : Action κ σ τ ε Unit).Covers calls := by
  intro s i hi
  rw [updateState]
  split
  · exact Process.covers_success ⟨_,i,()⟩
  · exact Process.covers_fault _

namespace Covers

variable {a b : Action κ σ τ ε α}

lemma map (ha : a.Covers calls) (f : α → β) : (a.map f).Covers calls :=
  fun s i hi => (ha s i hi).bind (fun r _ => .inl (Process.covers_success (r.map f)))
    Process.covers_failure Process.covers_error

lemma andThen (ha : a.Covers calls) {next : Parsed σ τ α → Process κ σ τ ε (Reply σ τ ε β)}
    (hnext : ∀ r, r.rest.Valid → (next r).Covers calls r.rest) : (a.andThen next).Covers calls :=
  fun s i hi => (ha s i hi).bind (fun r hr => .inl (hnext r (hr.valid hi)))
    Process.covers_failure Process.covers_error

lemma bind (ha : a.Covers calls) {next : α → Action κ σ τ ε β}
    (hnext : ∀ x, (next x).Covers calls) : (a.bind next).Covers calls :=
  ha.andThen fun r hr => hnext r.value r.state r.rest hr

lemma check (ha : a.Covers calls) (accept : α → Bool) : (a.check accept).Covers calls := by
  refine ha.andThen fun r hr => ?_
  split
  · exact Process.covers_success r
  · exact Process.covers_failure

lemma tuple {n : ℕ} {types : Fin n → Type} {actions : (k : Fin n) → Action κ σ τ ε (types k)}
    (h : ∀ k, (actions k).Covers calls) (make : ((k : Fin n) → types k) → β) :
    (tuple n types actions make).Covers calls := by
  induction n with
  | zero => exact fun s i _ => Process.covers_success ⟨s,i,_⟩
  | succ n ih => exact (h 0).bind fun value => ih (fun k => h k.succ) _

lemma sequence {actions : List (Action κ σ τ ε α)} (h : ∀ a ∈ actions, a.Covers calls) :
    (sequence actions).Covers calls := by
  have hfrom : ∀ values, (sequenceFrom values actions).Covers calls := by
    induction actions with
    | nil => exact fun values s i hi => Process.covers_success ⟨s,i,values.reverse⟩
    | cons a rest ih =>
      intro values
      have ha := h a (List.mem_cons_self ..)
      have hrest := ih fun b hb => h b (List.mem_cons_of_mem _ hb)
      exact ha.andThen fun r hr => hrest _ r.state r.rest hr
  exact hfrom []

lemma orElse (ha : a.Covers calls) {other : Action κ σ τ ε α} (hother : other.Covers calls) :
    (a.orElse other).Covers calls :=
  fun s i hi => (ha s i hi).bind (fun r _ => .inl (Process.covers_success r)) (hother s i hi)
    Process.covers_error

lemma announcing (ha : a.Covers calls) {event : Stream τ → Event}
    (hevent : ∀ i, i.Valid → (event i).Within i.offset i.buffer.tokens.size) :
    (a.announcing event).Covers calls :=
  fun s i hi => (ha s i hi).emit (event i) (hevent i hi)

lemma plus (ha : a.Covers calls) (hb : b.Covers calls) : (a.plus b).Covers calls :=
  ha.orElse (hb.announcing fun _ hi => ⟨Nat.le_refl _,hi⟩)

lemma choice {actions : List (Action κ σ τ ε α)} (h : ∀ a ∈ actions, a.Covers calls) :
    (choice actions).Covers calls := by
  have hfrom : ∀ index, (choiceFrom index actions).Covers calls := by
    induction actions with
    | nil => exact fun _ _ _ _ => Process.covers_failure
    | cons a rest ih =>
      intro index
      have ha := h a (List.mem_cons_self ..)
      have hrest := ih (fun b hb => h b (List.mem_cons_of_mem _ hb)) (index + 1)
      exact ha.orElse (hrest.announcing fun _ hi => ⟨Nat.le_refl _,hi⟩)
  exact hfrom 0

/-- The rounds of a repetition, by the length of what they have before them. -/
lemma many0From (ha : a.Covers calls) (values : List α) {s : σ} {i : Stream τ} (hi : i.Valid) :
    (many0From a values s i).Covers calls i := by
  induction hn : i.length using Nat.strongRecOn generalizing values s i with
  | _ n ih =>
    rw [Action.many0From]
    have hdone : (Process.done (.success ⟨s,i,values.reverse⟩) :
        Process κ σ τ ε (Reply σ τ ε (List α))).Covers calls i := Process.covers_success ⟨s,i,_⟩
    refine (ha s i hi).bind (fun r hr => .inl ?_) (hdone.emit (.many0Done _ _) ⟨Nat.le_refl _,hi⟩)
      Process.covers_error
    by_cases hlt : r.rest.length < i.length
    · simp only [hlt,if_true]
      exact ih _ (by omega) _ (hr.valid hi) rfl
    · simp only [hlt,if_false]
      exact Process.covers_fault _

lemma maybe (ha : a.Covers calls) : a.maybe.Covers calls :=
  (ha.map some).orElse fun s i _ => Process.covers_success ⟨s,i,none⟩

lemma not0 (ha : a.Covers calls) : a.not0.Covers calls :=
  fun s i hi => (ha s i hi).bind (fun _ _ => .inr Process.covers_failure)
    (Process.covers_success ⟨s,i,()⟩) Process.covers_error

lemma lookahead (ha : a.Covers calls) : a.lookahead.Covers calls :=
  fun s i hi => (ha s i hi).bind
    (fun r _ => .inr (Process.covers_success { r with rest := i })) Process.covers_failure
    Process.covers_error

lemma commit (ha : a.Covers calls) (payload : ε) : (a.commit payload).Covers calls := by
  have herror : (error payload : Action κ σ τ ε α).Covers calls :=
    fun _ _ _ => Process.covers_error payload
  exact ha.orElse (herror.announcing fun _ hi => ⟨Nat.le_refl _,hi⟩)

lemma catchError (ha : a.Covers calls) {handler : ε → Action κ σ τ ε α}
    (hhandler : ∀ e, (handler e).Covers calls) : (a.catchError handler).Covers calls :=
  fun s i hi => (ha s i hi).bind (fun r _ => .inl (Process.covers_success r))
    Process.covers_failure fun e => hhandler e s i hi

lemma mapError (ha : a.Covers calls) (f : ε → ε) : (a.mapError f).Covers calls :=
  fun s i hi => (ha s i hi).bind (fun r _ => .inl (Process.covers_success r))
    Process.covers_failure fun e => Process.covers_error (f e)

lemma run (ha : a.Covers calls) : a.run.Covers calls := by
  intro s i hi
  have hfinished : ∀ {j : Stream τ} {reply : Reply σ τ ε α},
      (Process.done reply : Process κ σ τ ε _).Covers calls j →
        (Process.emit (.runFinished reply.verdict (consumed i reply)) fun _ => .done reply :
          Process κ σ τ ε (Reply σ τ ε α)).Covers calls j := fun h => h.emit _ trivial
  exact Process.Covers.emit ((ha s i hi).bind
    (fun r _ => .inl (hfinished (Process.covers_success r))) (hfinished Process.covers_failure)
    fun e => hfinished (Process.covers_error e)) (.run i.length) trivial

lemma call {c : κ α} (h : ∀ s i, i.Valid → (calls c s i).Covers i) :
    (call c : Action κ σ τ ε α).Covers calls := by
  intro s i hi
  show Trail.Covers i ((calls c s i).bind .pure)
  rw [Trail.bind_pure]
  exact h s i hi

end Covers
end Action

/-- The leaves of parsers without `put`. -/
abbrev Parts.access : Parts ρ σ τ ε := ⟨Parser.Access,True⟩

/-- A parser without `put` covers what it consumes where the answers to its calls do. -/
theorem Parser.PutFree.covers {calls : Answers (Callee ρ σ τ ε) σ τ ε Event}
    (hcalls : ∀ {α : Type} (c : Callee ρ σ τ ε α), c.BuiltFrom .access →
      ∀ s i, i.Valid → (calls c s i).Covers i)
    {p : Parser ρ σ τ ε Γ α} (hp : p.PutFree) {env : Env ρ σ τ ε Γ}
    (henv : env.BuiltFrom .access) : (p.action env).Covers calls := by
  have hcall : ∀ {α : Type} {c : Callee ρ σ τ ε α}, c.BuiltFrom .access →
      (Action.call c).Covers calls := fun hc => .call (hcalls _ hc)
  induction hp with
  | leaf h =>
    cases h with
    | item => exact Action.covers_item
    | get => exact fun s i _ => Process.covers_success ⟨s,i,i⟩
    | getState => exact fun s i _ => Process.covers_success ⟨s,i,s⟩
    | putState state => exact fun s i _ => Process.covers_success ⟨state,i,()⟩
    | updateState update => exact Action.covers_updateState update
  | pure value => exact fun s i _ => Process.covers_success ⟨s,i,value⟩
  | zero => exact fun _ _ _ => Process.covers_failure
  | error payload => exact fun _ _ _ => Process.covers_error payload
  | fault h => exact fun _ _ _ => Process.covers_fault _
  | map f _ ih => exact (ih henv).map f
  | bind _ _ ih ihNext => exact (ih henv).bind fun x => ihNext x henv
  | check accept _ ih => exact (ih henv).check accept
  | tuple make _ ih => exact .tuple (fun k => ih k henv) make
  | sequence _ ih =>
    refine .sequence fun a ha => ?_
    obtain ⟨k,rfl⟩ := List.mem_ofFn.mp ha
    exact ih k henv
  | plus _ _ ihp ihq => exact (ihp henv).plus (ihq henv)
  | choice _ ih =>
    refine .choice fun a ha => ?_
    obtain ⟨k,rfl⟩ := List.mem_ofFn.mp ha
    exact ih k henv
  | many0 _ ih => exact fun s i hi => (ih henv).many0From [] hi
  | maybe _ ih => exact (ih henv).maybe
  | not0 _ ih => exact (ih henv).not0
  | lookahead _ _ ih => exact (ih henv).lookahead
  | commit payload _ ih => exact (ih henv).commit payload
  | catchError _ _ ih ihHandler => exact (ih henv).catchError fun e => ihHandler e henv
  | mapError f _ ih => exact (ih henv).mapError f
  | recursive h ih => exact ih ⟨h,henv⟩
  | placeholder slot => exact hcall (henv.callee slot)
  | rule name => exact hcall trivial

variable {G : Grammar ρ σ τ ε}

/-- Calls are answered by what covers, at every depth. -/
lemma Grammar.answers_cover (hG : ∀ name, (G name).PutFree) (n : ℕ) {c : Callee ρ σ τ ε α}
    (hc : c.BuiltFrom .access) (s : σ) (i : Stream τ) (hi : i.Valid) :
    (G.answers n c s i).Covers i := by
  induction n generalizing α s i with
  | zero => exact .of_notes (by simp) (by simp)
  | succ n ih =>
    have hcalls : ∀ {α : Type} (c : Callee ρ σ τ ε α), c.BuiltFrom .access →
        ∀ s i, i.Valid → (G.answers n c s i).Covers i := fun c hc s i hi => ih hc s i hi
    cases c with
    | defined body outer =>
      have hbody : body.PutFree := hc.1
      have henv : (Env.define body outer).BuiltFrom .access := hc
      exact hbody.covers hcalls henv s i hi
    | rule name =>
      have henv : (Env.empty : Env ρ σ τ ε []).BuiltFrom .access := trivial
      exact (hG name).covers hcalls henv s i hi

/-- While no tokens are put in place of the input, whatever a run reports on its way, whether or not
it ends, lies between the beginning of the input and the end of the buffer. If the run succeeds, the
tokens in front of the rest are reported as consumed, one after the other. -/
theorem Parser.items_cover_consumed (hG : ∀ name, (G name).PutFree) {p : Parser ρ σ τ ε [] α}
    (hp : p.PutFree) (s : σ) {i : Stream τ} (hi : i.Valid) :
    (∀ d, (p.run s i).config.Passes G d →
      ∀ event ∈ d.trace, event.Within i.offset i.buffer.tokens.size) ∧
    ∀ report, (p.run s i).config.Ends G report →
      (∀ event ∈ report.events, event.Within i.offset i.buffer.tokens.size) ∧
      ∀ r, report.result = .ok (.success r) → i.offset ≤ r.rest.offset ∧
        (List.range' i.offset (r.rest.offset - i.offset)).Sublist
          (report.events.filterMap Event.item?) := by
  have henv : (Env.empty : Env ρ σ τ ε []).BuiltFrom .access := trivial
  have hcovers : ∀ n, ((p.run s i).follow id (G.answers n)).Covers i := fun n =>
    (hp.covers (fun c hc s i hi => Grammar.answers_cover hG n hc s i hi) henv).run s i hi
  constructor
  · intro d hd event hevent
    obtain ⟨n,hn⟩ := Process.follow_of_passes hd
    exact (hcovers n).within event (hn.subset (List.mem_reverse.mpr hevent))
  · intro report hends
    obtain ⟨n,hn⟩ := Process.ends_iff_follow.mp hends
    have hreport : report.trail.Covers i := hn ▸ hcovers n
    refine ⟨hreport.within,fun r hr => ?_⟩
    obtain ⟨hreaches,hcovered⟩ := hreport.consumed r (Ending.ofExcept_eq_answer.mpr hr)
    exact ⟨hreaches.offset_le,hcovered⟩

/-- Two tokens that are read ahead, and then again by the second of two alternatives. -/
theorem Parser.items_cover_consumed_of_reread :
    let letter (c : Char) : Parser Rules.none Unit Char ℕ [] Char := .check (· == c) .item
    let p : Parser Rules.none Unit Char ℕ [] (Char × Char) :=
      .bind (.lookahead (.both .item .item)) fun _ =>
        .plus (.both (letter 'b') .item) (.both (letter 'a') .item)
    let i : Stream Char := ⟨⟨0,#['x','a','b']⟩,1⟩
    (∀ name, (Grammar.none name : Parser Rules.none Unit Char ℕ [] _).PutFree) ∧ p.PutFree ∧
      i.Valid ∧ ∃ report, (p.run () i).config.Ends Grammar.none report ∧
        report.events.filterMap Event.item? = [1,2,1,1,2] ∧
        (∀ event ∈ report.events, event.Within 1 3) ∧ [1,2].Sublist [1,2,1,1,2] := by
  intro letter p i
  have hG : ∀ name, (Grammar.none name : Parser Rules.none Unit Char ℕ [] _).PutFree :=
    fun name => name.elim
  have hletter : ∀ c, (letter c).PutFree := fun c => .check _ (.leaf .item)
  have hp : p.PutFree := .bind (.lookahead trivial (.both (.leaf .item) (.leaf .item))) fun _ =>
    .plus (.both (hletter 'b') (.leaf .item)) (.both (hletter 'a') (.leaf .item))
  have hi : i.Valid := (by decide : 1 ≤ 3)
  have hends : (p.run () i).config.Ends Grammar.none
      ⟨.ok (.success ⟨(),i.advance 2,('a','b')⟩),[.run 2,.item 1,.item 2,.item 1,.plusBacktrack 1,
        .item 1,.item 2,.runFinished .success 2]⟩ := Process.ends_iff_follow.mpr ⟨0,rfl⟩
  obtain ⟨-,hcovers⟩ := items_cover_consumed hG hp () hi
  obtain ⟨hwithin,hconsumed⟩ := hcovers _ hends
  exact ⟨hG,hp,hi,_,hends,rfl,hwithin,(hconsumed _ rfl).2⟩

end Backtrack
