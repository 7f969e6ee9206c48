import Backtrack.Proofs.Process.Gives

/-!
Processes that come to the same results, whatever they report on the way. What goes on in the same
way from all that a process can answer comes to the same results, so an answer that a process never
gives need not be looked at.
-/
namespace Backtrack.Process

variable {ρ : Rules} {σ τ ε : Type} {α β : Type} {G : Grammar ρ σ τ ε}

/-- One of the processes comes to an end exactly if the other does, with the same result. -/
def Same (G : Grammar ρ σ τ ε) (p q : Process (Callee ρ σ τ ε) σ τ ε β) : Prop :=
  ∀ result, p.Gives G result ↔ q.Gives G result

namespace Same

variable {p q r : Process (Callee ρ σ τ ε) σ τ ε β}

lemma refl (p : Process (Callee ρ σ τ ε) σ τ ε β) : p.Same G p := fun _ => Iff.rfl

lemma of_eq (h : p = q) : p.Same G q := h ▸ refl p

/-- A process comes to one result only. -/
lemma of_gives {result : Except Fault β} (h : p.Gives G result) (h' : q.Gives G result) :
    p.Same G q :=
  fun _ => ⟨fun hother => h.unique hother ▸ h',fun hother => h'.unique hother ▸ h⟩

lemma symm (h : p.Same G q) : q.Same G p := fun result => (h result).symm

lemma trans (h : p.Same G q) (h' : q.Same G r) : p.Same G r :=
  fun result => (h result).trans (h' result)

/-- An event is no part of a result. -/
lemma emit (event : Event) (next : Unit → Process (Callee ρ σ τ ε) σ τ ε β) :
    (Process.emit event next).Same G (next ()) := fun _ => gives_emit

lemma bind_left (h : p.Same G q) (f : β → Process (Callee ρ σ τ ε) σ τ ε α) :
    (p.bind f).Same G (q.bind f) := by
  intro result
  simp only [gives_bind,h _]

/-- Only the answers that the process gives need to be gone on from in the same way. -/
lemma bind_right {f g : β → Process (Callee ρ σ τ ε) σ τ ε α}
    (h : ∀ b, p.Gives G (.ok b) → (f b).Same G (g b)) : (p.bind f).Same G (p.bind g) := by
  intro result
  rw [gives_bind,gives_bind]
  apply or_congr_left
  exact exists_congr fun b => and_congr_right fun hb => h b hb result

end Same
end Backtrack.Process
