import Backtrack.Proofs.Parser.Parts

/-!
What a parser consumes. While no tokens are put in place of the input, a success leaves a suffix of
it: the same buffer, read from a place further along.
-/
namespace Backtrack

variable {ρ : Rules} {σ τ ε : Type}

/-- The ways to read state and tokens and to change the state. -/
inductive Parser.Access : {Γ : List Type} → {α : Type} → Parser ρ σ τ ε Γ α → Prop
  | item {Γ} : Access (.item : Parser ρ σ τ ε Γ τ)
  | get {Γ} : Access (.get : Parser ρ σ τ ε Γ (Stream τ))
  | getState {Γ} : Access (.getState : Parser ρ σ τ ε Γ σ)
  | putState {Γ} (state : σ) : Access (.putState state : Parser ρ σ τ ε Γ Unit)
  | updateState {Γ} (update : σ → Except Fault σ) :
      Access (.updateState update : Parser ρ σ τ ε Γ Unit)

variable {Γ : List Type} {α : Type}

/-- The parser is built without `put`. -/
def Parser.PutFree (p : Parser ρ σ τ ε Γ α) : Prop := p.BuiltFrom ⟨Parser.Access,True⟩

/-- Some of the tokens of `i` are consumed. -/
def Stream.Reaches (i j : Stream τ) : Prop := ∃ n ≤ i.length, j = i.advance n

namespace Stream.Reaches

variable {i j : Stream τ}

lemma refl (i : Stream τ) : i.Reaches i := ⟨0,Nat.zero_le _,rfl⟩

lemma next {token : τ} {rest : List τ} (h : i.Reaches j) (hj : j.remaining = token :: rest) :
    i.Reaches (j.advance 1) := by
  obtain ⟨n,hn,rfl⟩ := h
  have hlength := length_eq_of_remaining hj
  simp only [Stream.length,advance,List.length_cons] at hlength hn
  exact ⟨n+1,by simp only [Stream.length]; omega,by rw [advance_advance]⟩

lemma trans {k : Stream τ} (h : i.Reaches j) (h' : j.Reaches k) : i.Reaches k := by
  obtain ⟨m,hm,rfl⟩ := h
  obtain ⟨n,hn,rfl⟩ := h'
  simp only [Stream.length,advance] at hm hn
  exact ⟨m+n,by simp only [Stream.length]; omega,by rw [advance_advance]⟩

lemma buffer_eq (h : i.Reaches j) : j.buffer = i.buffer := by
  obtain ⟨n,-,rfl⟩ := h
  rfl

lemma offset_le (h : i.Reaches j) : i.offset ≤ j.offset := by
  obtain ⟨n,-,rfl⟩ := h
  exact Nat.le_add_right _ _

lemma isSuffixOf (h : i.Reaches j) : j.isSuffixOf i = true := by
  simp [Stream.isSuffixOf,h.buffer_eq,h.offset_le]

lemma valid (h : i.Reaches j) (hi : i.Valid) : j.Valid := by
  obtain ⟨n,hn,rfl⟩ := h
  simp only [Valid,Stream.length,advance] at *
  omega

lemma length_add_offset (h : i.Reaches j) : j.length + j.offset = i.length + i.offset := by
  obtain ⟨n,hn,rfl⟩ := h
  simp only [Stream.length,advance] at *
  omega

end Stream.Reaches

/-- Nothing but the tokens in front of it is ever taken from the input. -/
lemma Parser.Access.reaches {i₀ : Stream τ} {p : Parser ρ σ τ ε Γ α} (hp : p.Access)
    (calls calls' : Answers (Callee ρ σ τ ε) σ τ ε Event) (env env' : Env ρ σ τ ε Γ) :
    (Coupling.ofInvariant fun _ => i₀.Reaches).Actions calls calls' Eq (p.action env)
      (p.action env') := by
  rintro s i _ _ ⟨rfl,rfl,hi⟩
  cases hp with
  | item =>
    refine Coupling.Actions.item (fun h => ?_) (fun h hremaining => ?_) s i s i ⟨rfl,rfl,hi⟩
    · obtain ⟨-,rfl,-⟩ := h
      exact List.forall₂_refl _
    · obtain ⟨rfl,rfl,hi⟩ := h
      exact ⟨rfl,rfl,hi.next hremaining⟩
  | get => exact .done (.success ⟨rfl,rfl,hi⟩ rfl)
  | getState => exact .done (.success ⟨rfl,rfl,hi⟩ rfl)
  | putState state => exact .done (.success ⟨rfl,rfl,hi⟩ rfl)
  | updateState update =>
    rw [updateState_action,updateState_action,Action.updateState]
    cases update s with
    | ok t => exact .done (.success ⟨rfl,rfl,hi⟩ rfl)
    | error reason => exact .fault (.refl (fun _ => rfl) reason)

variable {G : Grammar ρ σ τ ε}

lemma Action.events_of_run {a : Action (Callee ρ σ τ ε) σ τ ε α} {s : σ} {i : Stream τ}
    {reply : Reply σ τ ε α} {events : List Event}
    (h : (a.run s i).config.Ends G ⟨.ok reply,events⟩) :
    ∃ inner, events =
      .run i.length :: inner ++ [.runFinished reply.verdict (consumed i reply)] := by
  obtain ⟨n,hn⟩ := Process.ends_iff_follow.mp h
  rw [Process.follow_run] at hn
  cases hw : (a s i).follow id (G.answers n) with
  | mk notes ending =>
    rw [hw] at hn
    have hnotes : _ :: _ = events := congrArg Trail.notes hn
    have hending := congrArg Trail.ending hn
    cases ending with
    | answer r =>
      obtain rfl : r = reply := by simpa [Trail.bind,Report.trail,Ending.ofExcept] using hending
      exact ⟨notes,hnotes.symm⟩
    | fault reason => simp [Trail.bind,Report.trail,Ending.ofExcept] at hending
    | cut => simp [Trail.bind,Report.trail,Ending.ofExcept] at hending

/-- While no tokens are put in place of the input, a success leaves a suffix of it, and what a run
reports as consumed is exactly how much further along the rest begins. -/
theorem Parser.rest_isSuffixOf_input (hG : ∀ name, (G name).PutFree) {p : Parser ρ σ τ ε [] α}
    (hp : p.PutFree) {s : σ} {i : Stream τ} (hi : i.Valid) {r : Parsed σ τ α} {events : List Event}
    (h : (p.run s i).config.Ends G ⟨.ok (.success r),events⟩) :
    r.rest.isSuffixOf i = true ∧ r.rest.buffer = i.buffer ∧ i.offset ≤ r.rest.offset ∧
      r.rest.Valid ∧ r.rest.length ≤ i.length ∧
      ∃ inner, events =
        .run i.length :: inner ++ [.runFinished .success (r.rest.offset - i.offset)] := by
  have hreaches : i.Reaches r.rest :=
    BuiltFrom.keeps (fun _ => i.Reaches) hG hp Access.reaches (fun _ _ _ _ _ hi _ => hi) (.refl i) h
  have hlength := hreaches.length_add_offset
  have hle := hreaches.offset_le
  obtain ⟨inner,hevents⟩ := Action.events_of_run h
  have hconsumed : Action.consumed i (.success r : Reply σ τ ε α) = r.rest.offset - i.offset := by
    show i.length - r.rest.length = _
    omega
  rw [hconsumed] at hevents
  exact ⟨hreaches.isSuffixOf,hreaches.buffer_eq,hle,hreaches.valid hi,by omega,inner,hevents⟩

/-- All of the next 'a's, by a parser that calls itself, from the second place of a buffer on. -/
theorem Parser.rest_isSuffixOf_input_of_recursive :
    let p : Parser Rules.none Unit Char ℕ [] Unit :=
      .recursive (.plus (.bind (.check (· == 'a') .item) fun _ => .placeholder .here) (.pure ()))
    let i : Stream Char := ⟨⟨0,#['x','a','a','b']⟩,1⟩
    (∀ name, (Grammar.none name : Parser Rules.none Unit Char ℕ [] _).PutFree) ∧ p.PutFree ∧
      i.Valid ∧ ∃ r events, (p.run () i).config.Ends Grammar.none ⟨.ok (.success r),events⟩ ∧
        r.rest.offset = 3 ∧ r.rest.isSuffixOf i = true ∧
        ∃ inner, events = .run 3 :: inner ++ [.runFinished .success 2] := by
  have hends : (Parser.run (.recursive (.plus (.bind (.check (· == 'a') .item)
      fun _ => .placeholder .here) (.pure ()))) () ⟨⟨0,#['x','a','a','b']⟩,1⟩).config.Ends
        (Grammar.none : Grammar Rules.none Unit Char ℕ)
        ⟨.ok (.success ⟨(),⟨⟨0,#['x','a','a','b']⟩,3⟩,()⟩),
          [.run 3,.item 1,.item 2,.item 3,.plusBacktrack 3,.runFinished .success 2]⟩ :=
    Process.ends_iff_follow.mpr ⟨3,rfl⟩
  intro p i
  have hG : ∀ name, (Grammar.none name : Parser Rules.none Unit Char ℕ [] _).PutFree :=
    fun name => name.elim
  have hp : p.PutFree :=
    .recursive (.plus (.bind (.check _ (.leaf .item)) fun _ => .placeholder .here) (.pure ()))
  have hi : i.Valid := (by decide : 1 ≤ 4)
  obtain ⟨hsuffix,-,-,-,-,hevents⟩ := rest_isSuffixOf_input hG hp hi hends
  exact ⟨hG,hp,hi,_,_,hends,rfl,hsuffix,hevents⟩

end Backtrack
