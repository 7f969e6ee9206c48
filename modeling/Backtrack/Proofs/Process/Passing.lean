import Backtrack.Process.Machine
import Backtrack.Proofs.Process.Trail

/-!
What the machine reports on its way, whether or not it comes to an end. All that it has reported in
a configuration that it passes is noted when the process is followed deep enough.
-/
namespace Backtrack

variable {ρ : Rules} {σ τ ε : Type} {α β ω : Type}

/-! Trails that were cut, and the same trails gone on with. -/
section
variable {μ : Type*}

/-- The second trail is the first one, or goes on where the first one was cut. -/
def Trail.Upto (w w' : Trail μ β) : Prop :=
  w.notes <+: w'.notes ∧ (w.ending ≠ .cut → w' = w)

lemma Trail.Upto.refl (w : Trail μ β) : w.Upto w := ⟨List.prefix_rfl,fun _ => rfl⟩

lemma Trail.Upto.of_cut {notes : List μ} {w : Trail μ β} (h : notes <+: w.notes) :
    Trail.Upto ⟨notes,.cut⟩ w := ⟨h,fun hcut => absurd rfl hcut⟩

lemma Trail.notes_isPrefix_bind (w : Trail μ α) (f : α → Trail μ β) :
    w.notes <+: (w.bind f).notes := by
  obtain ⟨notes,ending⟩ := w
  cases ending with
  | answer a => exact List.prefix_append _ _
  | fault reason => exact List.prefix_rfl
  | cut => exact List.prefix_rfl

lemma Trail.Upto.bind {w w' : Trail μ α} {f f' : α → Trail μ β} (h : w.Upto w')
    (hf : ∀ a, (f a).Upto (f' a)) : (w.bind f).Upto (w'.bind f') := by
  obtain ⟨notes,ending⟩ := w
  cases ending with
  | cut => exact .of_cut (h.1.trans (notes_isPrefix_bind w' f'))
  | fault reason =>
    obtain rfl : w' = _ := h.2 (by simp)
    exact .refl _
  | answer a =>
    obtain rfl : w' = _ := h.2 (by simp)
    obtain ⟨hnotes,hending⟩ := hf a
    simp only [Trail.bind_answer]
    exact ⟨(List.prefix_append_right_inj notes).mpr hnotes,fun hcut => by rw [hending hcut]⟩

lemma Trail.Upto.noting {w w' : Trail μ β} (h : w.Upto w') (note : μ) :
    (w.noting note).Upto (w'.noting note) :=
  ⟨List.cons_prefix_cons.mpr ⟨rfl,h.1⟩,fun hcut => by rw [h.2 hcut]⟩

end

namespace Process

variable {κ : Type → Type 1} {μ : Type*} {note : Event → μ}

lemma follow_upto {answers deeper : Answers κ σ τ ε μ}
    (h : ∀ {α : Type} (c : κ α) s i, (answers c s i).Upto (deeper c s i))
    (p : Process κ σ τ ε β) : (p.follow note answers).Upto (p.follow note deeper) := by
  induction p with
  | done b => exact .refl _
  | fault reason => exact .refl _
  | emit event next ih => exact (ih ()).noting _
  | call c s i next ih => exact (h c s i).bind ih

end Process

variable {G : Grammar ρ σ τ ε}

lemma answers_upto {m n : ℕ} (hmn : m ≤ n) (c : Callee ρ σ τ ε α) (s : σ) (i : Stream τ) :
    (G.answers m c s i).Upto (G.answers n c s i) := by
  induction m generalizing n α c s i with
  | zero => exact .of_cut List.nil_prefix
  | succ m ih =>
    obtain ⟨n,rfl⟩ : ∃ k, n = k + 1 := ⟨n - 1,by omega⟩
    exact Process.follow_upto (fun c s i => ih (by omega) c s i) _

lemma follow_upto_of_le {m n : ℕ} (hmn : m ≤ n) (p : Process (Callee ρ σ τ ε) σ τ ε β) :
    (p.follow id (G.answers m)).Upto (p.follow id (G.answers n)) :=
  p.follow_upto fun c s i => answers_upto hmn c s i

variable (G) in
/-- What the callers do with an answer, followed up to a depth of calls. -/
def Stack.follow (n : ℕ) : {β : Type} → Stack ρ σ τ ε ω β → β → Trail Event ω
  | _, .base, b => .pure b
  | _, .push next below, reply => ((next reply).follow id (G.answers n)).bind (below.follow n)

lemma Stack.follow_upto {m n : ℕ} (hmn : m ≤ n) (stack : Stack ρ σ τ ε ω β) (b : β) :
    (stack.follow G m b).Upto (stack.follow G n b) := by
  induction stack with
  | base => exact .refl _
  | push next below ih => exact (follow_upto_of_le hmn (next b)).bind ih

namespace Config

variable (G) in
/-- All that is reported by a configuration, so far and from now on up to a depth of calls. -/
def notes (n : ℕ) (c : Config ρ σ τ ε ω) : List Event :=
  c.trace.reverse ++ ((c.focus.follow id (G.answers n)).bind (c.stack.follow G n)).notes

/-- The machine goes on from one configuration to another one. -/
inductive Passes (G : Grammar ρ σ τ ε) : Config ρ σ τ ε ω → Config ρ σ τ ε ω → Prop
  | refl (c : Config ρ σ τ ε ω) : Passes G c c
  | next {c d e : Config ρ σ τ ε ω} (h : c.step G = .next d) (rest : Passes G d e) : Passes G c e

/-- A step reports nothing that is not noted from the configuration before it. -/
lemma notes_of_step {c d : Config ρ σ τ ε ω} (h : c.step G = .next d) (n : ℕ) :
    d.notes G n <+: c.notes G (n + 1) := by
  have hfocus : ∀ {β : Type} (p : Process (Callee ρ σ τ ε) σ τ ε β),
      (p.follow id (G.answers n)).Upto (p.follow id (G.answers (n + 1))) :=
    fun p => follow_upto_of_le (Nat.le_succ n) p
  have hstack : ∀ {β : Type} (stack : Stack ρ σ τ ε ω β) b,
      (stack.follow G n b).Upto (stack.follow G (n + 1) b) :=
    fun stack b => stack.follow_upto (Nat.le_succ n) b
  obtain ⟨focus,stack,trace⟩ := c
  cases focus with
  | fault reason => cases stack <;> simp [step] at h
  | done b =>
    cases stack with
    | base => simp [step] at h
    | push next below =>
      obtain rfl : _ = d := by simpa [step] using h
      exact (List.prefix_append_right_inj _).mpr ((hfocus (next b)).bind (hstack below)).1
  | emit event next =>
    obtain rfl : (⟨next (),stack,event :: trace⟩ : Config ρ σ τ ε ω) = d := by
      cases stack <;> simpa [step] using h
    simpa [notes,Process.follow] using ((hfocus (next ())).bind (hstack stack)).1
  | call callee s i next =>
    obtain rfl : (⟨callee.action G s i,.push next stack,trace⟩ : Config ρ σ τ ε ω) = d := by
      cases stack <;> simpa [step] using h
    -- the callee was already followed one level deeper, only its callers gain a level
    have hcallee := Trail.Upto.refl ((callee.action G s i).follow id (G.answers n))
    have hnext := hcallee.bind fun r => (hfocus (next r)).bind (hstack stack)
    refine (List.prefix_append_right_inj _).mpr ?_
    simp only [Process.follow,Trail.bind_assoc]
    exact hnext.1

lemma notes_of_passes {c d : Config ρ σ τ ε ω} (h : c.Passes G d) :
    ∃ n, d.trace.reverse <+: c.notes G n := by
  induction h with
  | refl c => exact ⟨0,List.prefix_append _ _⟩
  | next h rest ih =>
    obtain ⟨n,ih⟩ := ih
    exact ⟨n + 1,ih.trans (notes_of_step h n)⟩

end Config

/-- What a process has reported when the machine passes a configuration is what is noted first when
the process is followed deep enough. -/
theorem Process.follow_of_passes {p : Process (Callee ρ σ τ ε) σ τ ε ω} {d : Config ρ σ τ ε ω}
    (h : p.config.Passes G d) : ∃ n, d.trace.reverse <+: (p.follow id (G.answers n)).notes := by
  obtain ⟨n,hn⟩ := Config.notes_of_passes h
  have hbase : ((p.follow id (G.answers n)).bind (Stack.base.follow G n)) =
      p.follow id (G.answers n) := Trail.bind_pure _
  exact ⟨n,by simpa [Config.notes,config,hbase] using hn⟩

end Backtrack
