import Backtrack.Process.Yields
import Mathlib.Tactic.Common

/-!
Runs cut off at a depth of calls. A process is followed through all that it reports, and a call is
answered by following the callee one level deeper. `yields_iff_follow` says that a process yields
exactly what it is followed to at some depth.
-/
namespace Backtrack

/-- How far a process was followed. -/
inductive Ending (β : Type) : Type
  | answer (b : β)
  | fault (reason : Fault)
  /-- A call lies too deep. -/
  | cut

namespace Ending

variable {β : Type}

def ofExcept : Except Fault β → Ending β
  | .ok b => .answer b
  | .error reason => .fault reason

variable {result : Except Fault β}

lemma ofExcept_ne_cut (result : Except Fault β) : ofExcept result ≠ .cut := by
  cases result <;> simp [ofExcept]

lemma ofExcept_eq_answer {b : β} : ofExcept result = .answer b ↔ result = .ok b := by
  cases result <;> simp [ofExcept]

lemma ofExcept_eq_fault {reason : Fault} :
    ofExcept result = .fault reason ↔ result = .error reason := by
  cases result <;> simp [ofExcept]

end Ending

universe u

/-- What was noted on the way, and the end of the way. -/
structure Trail (μ : Type u) (β : Type) : Type u where
  notes : List μ
  ending : Ending β

namespace Trail

variable {μ : Type u} {α β γ : Type}

def pure (b : β) : Trail μ β := ⟨[],.answer b⟩

/-- Go on from the answer, if there is one. -/
def bind (w : Trail μ α) (f : α → Trail μ β) : Trail μ β :=
  match w.ending with
  | .answer a => ⟨w.notes ++ (f a).notes,(f a).ending⟩
  | .fault reason => ⟨w.notes,.fault reason⟩
  | .cut => ⟨w.notes,.cut⟩

theorem bind_answer (notes : List μ) (a : α) (f : α → Trail μ β) :
    bind ⟨notes,.answer a⟩ f = ⟨notes ++ (f a).notes,(f a).ending⟩ := rfl

theorem bind_fault (notes : List μ) (reason : Fault) (f : α → Trail μ β) :
    bind ⟨notes,.fault reason⟩ f = ⟨notes,.fault reason⟩ := rfl

theorem bind_cut (notes : List μ) (f : α → Trail μ β) : bind ⟨notes,.cut⟩ f = ⟨notes,.cut⟩ := rfl

@[simp] theorem bind_pure (w : Trail μ α) : w.bind pure = w := by
  obtain ⟨notes,ending⟩ := w
  cases ending <;> simp [bind,pure]

theorem bind_assoc (w : Trail μ α) (f : α → Trail μ β) (g : β → Trail μ γ) :
    (w.bind f).bind g = w.bind fun a => (f a).bind g := by
  obtain ⟨notes,ending⟩ := w
  cases ending with
  | answer a =>
    simp only [bind_answer]
    cases h : f a with
    | mk notes' ending' => cases ending' <;> simp [bind]
  | fault reason => rfl
  | cut => rfl

/-- A trail that goes on ends where its continuation does, or where a fault stopped it. -/
lemma bind_eq_iff {w : Trail μ α} {f : α → Trail μ β} {notes : List μ}
    {result : Except Fault β} : w.bind f = ⟨notes,.ofExcept result⟩ ↔
      (∃ before a after, w = ⟨before,.ofExcept (.ok a)⟩ ∧ f a = ⟨after,.ofExcept result⟩ ∧
        notes = before ++ after) ∨
      ∃ reason, w = ⟨notes,.ofExcept (.error reason)⟩ ∧ result = .error reason := by
  obtain ⟨before,ending⟩ := w
  constructor
  · intro h
    cases ending with
    | answer a =>
      obtain ⟨rfl,hending⟩ : before ++ (f a).notes = notes ∧ (f a).ending = .ofExcept result := by
        simpa [bind_answer] using h
      refine .inl ⟨before,a,(f a).notes,rfl,?_,rfl⟩
      rw [← hending]
    | fault reason =>
      obtain ⟨rfl,hending⟩ : before = notes ∧ Ending.fault reason = .ofExcept result := by
        simpa [bind_fault] using h
      exact .inr ⟨reason,rfl,Ending.ofExcept_eq_fault.mp hending.symm⟩
    | cut =>
      have hending : Ending.cut = .ofExcept result := congrArg Trail.ending h
      exact absurd hending.symm (Ending.ofExcept_ne_cut result)
  · rintro (⟨_,a,after,hw,hf,rfl⟩ | ⟨reason,hw,rfl⟩)
    · rw [hw]
      show (⟨_ ++ (f a).notes,(f a).ending⟩ : Trail μ β) = _
      rw [hf]
    · rw [hw]
      rfl

/-- Put a note before all others. -/
def noting (note : μ) (w : Trail μ β) : Trail μ β := ⟨note :: w.notes,w.ending⟩

@[simp] theorem noting_notes (note : μ) (w : Trail μ β) :
    (w.noting note).notes = note :: w.notes := rfl

@[simp] theorem noting_ending (note : μ) (w : Trail μ β) : (w.noting note).ending = w.ending := rfl

@[simp] theorem noting_bind (note : μ) (w : Trail μ α) (f : α → Trail μ β) :
    (w.noting note).bind f = (w.bind f).noting note := by
  obtain ⟨notes,ending⟩ := w
  cases ending <;> rfl

end Trail

/-- A way to answer calls. -/
abbrev Answers (κ : Type → Type 1) (σ τ ε : Type) (μ : Type u) :=
  {α : Type} → κ α → σ → Stream τ → Trail μ (Reply σ τ ε α)

namespace Process

variable {κ : Type → Type 1} {σ τ ε : Type} {α β : Type} {μ : Type u}

/-- Follow a process, where events are noted and calls are answered. -/
def follow (note : Event → μ) (answers : Answers κ σ τ ε μ) : Process κ σ τ ε β → Trail μ β
  | done b => .pure b
  | fault reason => ⟨[],.fault reason⟩
  | emit event next => ((next ()).follow note answers).noting (note event)
  | call callee s i next => (answers callee s i).bind fun r => (next r).follow note answers

variable {note : Event → μ} {answers : Answers κ σ τ ε μ}

@[simp] theorem follow_bind (p : Process κ σ τ ε α) (f : α → Process κ σ τ ε β) :
    (p.bind f).follow note answers =
      (p.follow note answers).bind fun a => (f a).follow note answers := by
  induction p with
  | done a => rfl
  | fault reason => rfl
  | emit event next ih => simp only [bind,follow,ih,Trail.noting_bind]
  | call callee s i next ih => simp only [bind,follow,ih,Trail.bind_assoc]

/-- What a whole run notes around what the action notes. -/
theorem follow_run (a : Action κ σ τ ε α) (s : σ) (i : Stream τ) :
    (a.run s i).follow note answers =
      (((a s i).follow note answers).bind fun r =>
        ⟨[note (.runFinished r.verdict (Action.consumed i r))],.answer r⟩).noting
          (note (.run i.length)) := by
  simp only [Action.run,follow,follow_bind]
  rfl

/-- Deeper answers change nothing where no call lies too deep. -/
lemma follow_of_deeper {deeper : Answers κ σ τ ε μ}
    (h : ∀ {α : Type} (c : κ α) s i, (answers c s i).ending ≠ .cut →
      deeper c s i = answers c s i)
    (p : Process κ σ τ ε β) (hp : (p.follow note answers).ending ≠ .cut) :
    p.follow note deeper = p.follow note answers := by
  induction p with
  | done b => rfl
  | fault reason => rfl
  | emit event next ih =>
    simp only [follow]
    rw [ih () hp]
  | call callee s i next ih =>
    simp only [follow] at hp ⊢
    cases ha : answers callee s i with
    | mk notes ending =>
      rw [ha] at hp
      have hcut : (answers callee s i).ending ≠ .cut := by
        rintro he
        rw [ha] at he
        subst he
        exact hp rfl
      rw [h callee s i hcut,ha]
      cases ending with
      | answer r =>
        simp only [Trail.bind_answer] at hp ⊢
        rw [ih r hp]
      | fault reason => rfl
      | cut => rfl

end Process

variable {ρ : Rules} {σ τ ε : Type} {α β ω : Type}

/-- Answer calls up to a depth, by following what the callee does. -/
def Grammar.answers (G : Grammar ρ σ τ ε) :
    ℕ → Answers (Callee ρ σ τ ε) σ τ ε Event
  | 0, _, _, _, _ => ⟨[],.cut⟩
  | n + 1, _, callee, s, i => (callee.action G s i).follow id (G.answers n)

variable {G : Grammar ρ σ τ ε}

lemma answers_of_le {m n : ℕ} (hmn : m ≤ n) (callee : Callee ρ σ τ ε α) (s : σ) (i : Stream τ)
    (h : (G.answers m callee s i).ending ≠ .cut) :
    G.answers n callee s i = G.answers m callee s i := by
  induction m generalizing n α callee s i with
  | zero => exact absurd rfl h
  | succ m ih =>
    obtain ⟨n,rfl⟩ : ∃ k, n = k + 1 := ⟨n - 1,by omega⟩
    exact Process.follow_of_deeper (fun c s i hc => ih (by omega) c s i hc) _ h

namespace Process

lemma follow_of_le {m n : ℕ} (hmn : m ≤ n) {p : Process (Callee ρ σ τ ε) σ τ ε β}
    (h : (p.follow id (G.answers m)).ending ≠ .cut) :
    p.follow id (G.answers n) = p.follow id (G.answers m) :=
  follow_of_deeper (fun c s i hc => answers_of_le hmn c s i hc) p h

variable {p : Process (Callee ρ σ τ ε) σ τ ε β} {events : List Event} {result : Except Fault β}

lemma yields_of_answers {answers : Answers (Callee ρ σ τ ε) σ τ ε Event}
    (h : ∀ {α : Type} (c : Callee ρ σ τ ε α) s i events result,
      answers c s i = ⟨events,.ofExcept result⟩ → (c.action G s i).Yields G events result)
    (hp : p.follow id answers = ⟨events,.ofExcept result⟩) : p.Yields G events result := by
  induction p generalizing events with
  | done b =>
    obtain ⟨rfl,hb⟩ : [] = events ∧ _ = Ending.ofExcept result := by
      simpa only [follow,Trail.pure,Trail.mk.injEq] using hp
    obtain rfl := Ending.ofExcept_eq_answer.mp hb.symm
    exact .done b
  | fault reason =>
    obtain ⟨rfl,hr⟩ : [] = events ∧ _ = Ending.ofExcept result := by simpa [follow] using hp
    obtain rfl := Ending.ofExcept_eq_fault.mp hr.symm
    exact .fault reason
  | emit event next ih =>
    obtain ⟨rfl,hnext⟩ : event :: _ = events ∧ _ := by simpa [follow,Trail.noting] using hp
    exact .emit event (ih () (by rw [← hnext]))
  | call callee s i next ih =>
    simp only [follow] at hp
    cases ha : answers callee s i with
    | mk notes ending =>
      rw [ha] at hp
      cases ending with
      | answer r =>
        obtain ⟨rfl,hnext⟩ : notes ++ _ = events ∧ _ := by simpa [Trail.bind_answer] using hp
        exact .call (h callee s i notes (.ok r) ha) (ih r (by rw [← hnext]))
      | fault reason =>
        obtain ⟨rfl,hr⟩ : notes = events ∧ _ := by simpa [Trail.bind_fault] using hp
        obtain rfl := Ending.ofExcept_eq_fault.mp hr.symm
        exact .callFault (h callee s i notes (.error reason) ha)
      | cut =>
        have hr : Ending.cut = Ending.ofExcept result := by simpa [Trail.bind_cut] using (congrArg
          Trail.ending hp)
        exact absurd hr.symm (Ending.ofExcept_ne_cut result)

/-- A process that is followed to its end has the same end at every greater depth. -/
lemma follow_eq_of_le {m n : ℕ} (hmn : m ≤ n)
    (h : p.follow id (G.answers m) = ⟨events,.ofExcept result⟩) :
    p.follow id (G.answers n) = ⟨events,.ofExcept result⟩ := by
  rw [follow_of_le hmn (by rw [h]; exact Ending.ofExcept_ne_cut result),h]

/-- What a process is followed to is what it yields. -/
lemma yields_of_follow {n : ℕ} (h : p.follow id (G.answers n) = ⟨events,.ofExcept result⟩) :
    p.Yields G events result := by
  induction n generalizing β p events with
  | zero =>
    refine yields_of_answers (fun c s i events result hc => ?_) h
    have hr : Ending.cut = Ending.ofExcept result := congrArg Trail.ending hc
    exact absurd hr.symm (Ending.ofExcept_ne_cut result)
  | succ n ih => exact yields_of_answers (fun c s i events result hc => ih hc) h

lemma Yields.follow_eq (h : p.Yields G events result) :
    ∃ n, p.follow id (G.answers n) = ⟨events,.ofExcept result⟩ := by
  induction h with
  | done b => exact ⟨0,rfl⟩
  | fault reason => exact ⟨0,rfl⟩
  | emit event rest ih =>
    obtain ⟨n,ih⟩ := ih
    exact ⟨n,by simp [follow,Trail.noting,ih]⟩
  | @call _ _ callee s i next before after reply result answer rest ihAnswer ihRest =>
    obtain ⟨m,ihAnswer⟩ := ihAnswer
    obtain ⟨n,ihRest⟩ := ihRest
    have hcallee : G.answers (m + n + 1) callee s i = ⟨before,.answer reply⟩ :=
      follow_eq_of_le (by omega) ihAnswer
    have hrest : (next reply).follow id (G.answers (m + n + 1)) = ⟨after,.ofExcept result⟩ :=
      follow_eq_of_le (by omega) ihRest
    exact ⟨m + n + 1,by simp [follow,hcallee,Trail.bind_answer,hrest]⟩
  | @callFault _ _ callee s i next events reason answer ih =>
    obtain ⟨n,ih⟩ := ih
    have hcallee : G.answers (n + 1) callee s i = ⟨events,.fault reason⟩ := ih
    exact ⟨n + 1,by simp [follow,hcallee,Trail.bind_fault,Ending.ofExcept]⟩

theorem yields_iff_follow :
    p.Yields G events result ↔ ∃ n, p.follow id (G.answers n) = ⟨events,.ofExcept result⟩ :=
  ⟨Yields.follow_eq,fun ⟨_,h⟩ => yields_of_follow h⟩

/-- A process that goes on yields what its continuation does, or the fault that stopped it. -/
lemma yields_bind {p : Process (Callee ρ σ τ ε) σ τ ε α}
    {f : α → Process (Callee ρ σ τ ε) σ τ ε β} : (p.bind f).Yields G events result ↔
      (∃ before a after, p.Yields G before (.ok a) ∧ (f a).Yields G after result ∧
        events = before ++ after) ∨
      ∃ reason, p.Yields G events (.error reason) ∧ result = .error reason := by
  constructor
  · intro h
    obtain ⟨n,hn⟩ := yields_iff_follow.mp h
    rw [follow_bind] at hn
    rcases Trail.bind_eq_iff.mp hn with ⟨before,a,after,hp,hf,rfl⟩ | ⟨reason,hp,rfl⟩
    · exact .inl ⟨before,a,after,yields_of_follow hp,yields_of_follow hf,rfl⟩
    · exact .inr ⟨reason,yields_of_follow hp,rfl⟩
  · rintro (⟨before,a,after,hp,hf,rfl⟩ | ⟨reason,hp,rfl⟩)
    · exact hp.bind hf
    · exact hp.bind_fault f

lemma yields_done {b : β} : (done b : Process (Callee ρ σ τ ε) σ τ ε β).Yields G events result ↔
    events = [] ∧ result = .ok b := by
  constructor
  · rintro ⟨⟩
    exact ⟨rfl,rfl⟩
  · rintro ⟨rfl,rfl⟩
    exact .done b

lemma yields_emit {event : Event} {next : Unit → Process (Callee ρ σ τ ε) σ τ ε β} :
    (emit event next).Yields G events result ↔
      ∃ after, (next ()).Yields G after result ∧ events = event :: after := by
  constructor
  · rintro ⟨⟩
    exact ⟨_,‹_›,rfl⟩
  · rintro ⟨after,h,rfl⟩
    exact .emit event h

end Process
end Backtrack
