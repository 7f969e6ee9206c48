import Backtrack.Process.Yields

/-!
Total correctness with events. A process tells what it reports on the way and what it answers, and
there is one rule for each way to make a process.
-/
namespace Backtrack.Process

variable {ρ : Rules} {σ τ ε : Type} {α β : Type} {G : Grammar ρ σ τ ε}

/-- The process ends without a fault, and its events and its answer have property `Q`. -/
def Tells (G : Grammar ρ σ τ ε) (p : Process (Callee ρ σ τ ε) σ τ ε β)
    (Q : List Event → β → Prop) : Prop := ∃ events b, p.Yields G events (.ok b) ∧ Q events b

namespace Tells

variable {Q : List Event → β → Prop} {p : Process (Callee ρ σ τ ε) σ τ ε β}

theorem done {b : β} (h : Q [] b) :
    (Process.done b : Process (Callee ρ σ τ ε) σ τ ε β).Tells G Q :=
  ⟨[], b, .done b, h⟩

theorem emit {event : Event} {next : Unit → Process (Callee ρ σ τ ε) σ τ ε β}
    (h : (next ()).Tells G fun events b => Q (event :: events) b) :
    (Process.emit event next).Tells G Q := by
  obtain ⟨events, b, hy, hq⟩ := h
  exact ⟨event :: events, b, .emit event hy, hq⟩

theorem emitAll {before : List Event} (h : p.Tells G fun events b => Q (before ++ events) b) :
    (Process.emitAll before p).Tells G Q := by
  induction before generalizing Q with
  | nil => exact h
  | cons event before ih => exact emit (ih h)

theorem call {P : List Event → Reply σ τ ε α → Prop} {callee : Callee ρ σ τ ε α} {s : σ}
    {i : Stream τ} {next : Reply σ τ ε α → Process (Callee ρ σ τ ε) σ τ ε β}
    (h : (callee.action G s i).Tells G P)
    (hnext : ∀ before r, P before r → (next r).Tells G fun after b => Q (before ++ after) b) :
    (Process.call callee s i next).Tells G Q := by
  obtain ⟨before, r, hy, hp⟩ := h
  obtain ⟨after, b, hy', hq⟩ := hnext before r hp
  exact ⟨before ++ after, b, .call hy hy', hq⟩

theorem bind {P : List Event → α → Prop} {p : Process (Callee ρ σ τ ε) σ τ ε α}
    {f : α → Process (Callee ρ σ τ ε) σ τ ε β} (h : p.Tells G P)
    (hf : ∀ before a, P before a → (f a).Tells G fun after b => Q (before ++ after) b) :
    (p.bind f).Tells G Q := by
  obtain ⟨before, a, hy, hp⟩ := h
  obtain ⟨after, b, hy', hq⟩ := hf before a hp
  exact ⟨before ++ after, b, hy.bind hy', hq⟩

theorem mono {P : List Event → β → Prop} (h : p.Tells G P)
    (hpq : ∀ events b, P events b → Q events b) : p.Tells G Q := by
  obtain ⟨events, b, hy, hp⟩ := h
  exact ⟨events, b, hy, hpq events b hp⟩

theorem halts (h : p.Tells G Q) : p.config.Halts G := by
  obtain ⟨_, _, hy, _⟩ := h
  exact hy.halts

end Tells
end Backtrack.Process
