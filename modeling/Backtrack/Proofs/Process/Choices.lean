import Backtrack.Process.Action
import Backtrack.Proofs.Process.Same

/-!
What is tried after a failure. It has the last word on a failure, and it is not reached if there is
none, whether or not what comes before it ends at all.
-/
namespace Backtrack

variable {ρ : Rules} {σ τ ε : Type} {α β : Type} {G : Grammar ρ σ τ ε} {s : σ} {i : Stream τ}

namespace Process

variable {p q : Process (Callee ρ σ τ ε) σ τ ε (Reply σ τ ε α)}

lemma Same.of_follow (h : ∀ n, p.follow id (G.answers n) = q.follow id (G.answers n)) :
    p.Same G q := by
  intro result
  simp only [gives_iff_follow,h]

lemma follow_of_not_failure (h : ¬ p.Gives G (.ok .failure))
    (other : Process (Callee ρ σ τ ε) σ τ ε (Reply σ τ ε α)) (n : ℕ) :
    (p.bind fun
      | .failure => other
      | decided => .done decided).follow id (G.answers n) = p.follow id (G.answers n) := by
  rw [follow_bind]
  cases hp : p.follow id (G.answers n) with
  | mk notes ending =>
    cases ending with
    | cut => rfl
    | fault reason => rfl
    | answer reply =>
      cases reply with
      | failure => exact absurd (gives_iff_follow.mpr ⟨n,notes,hp⟩) h
      | success r => simp [Trail.bind_answer,follow,Trail.pure]
      | error e => simp [Trail.bind_answer,follow,Trail.pure]

lemma same_of_not_failure (h : ¬ p.Gives G (.ok .failure))
    (other : Process (Callee ρ σ τ ε) σ τ ε (Reply σ τ ε α)) :
    (p.bind fun
      | .failure => other
      | decided => .done decided).Same G p :=
  .of_follow (follow_of_not_failure h other)

end Process

namespace Action

variable {a a' b b' other : Action (Callee ρ σ τ ε) σ τ ε α} {events : List Event}
  {result : Except Fault (Reply σ τ ε α)}

lemma orElse_yields : (a.orElse other s i).Yields G events result ↔
    (∃ own later, (a s i).Yields G own (.ok .failure) ∧ (other s i).Yields G later result ∧
      events = own ++ later) ∨ (a s i).Yields G events result ∧ result ≠ .ok .failure := by
  constructor
  · intro h
    rcases Process.yields_bind.mp h with ⟨own,reply,later,ha,hlater,rfl⟩ | ⟨reason,ha,rfl⟩
    · cases reply with
      | failure => exact .inl ⟨own,later,ha,hlater,rfl⟩
      | success r =>
        obtain ⟨rfl,rfl⟩ := Process.yields_done.mp hlater
        exact .inr ⟨by rwa [List.append_nil],by simp⟩
      | error e =>
        obtain ⟨rfl,rfl⟩ := Process.yields_done.mp hlater
        exact .inr ⟨by rwa [List.append_nil],by simp⟩
    · exact .inr ⟨ha,by simp⟩
  · rintro (⟨own,later,ha,hother,rfl⟩ | ⟨ha,hdecided⟩)
    · exact ha.bind hother
    · rcases result with reason | reply
      · exact ha.bind_fault _
      · rw [← List.append_nil events]
        cases reply with
        | failure => exact absurd rfl hdecided
        | success r => exact ha.bind (.done _)
        | error e => exact ha.bind (.done _)

lemma orElse_gives_failure : (a.orElse other s i).Gives G (.ok .failure) ↔
    (a s i).Gives G (.ok .failure) ∧ (other s i).Gives G (.ok .failure) := by
  constructor
  · rintro ⟨events,h⟩
    rcases orElse_yields.mp (Process.yields_of_ends h) with ⟨_,_,ha,hother,-⟩ | ⟨-,hdecided⟩
    · exact ⟨⟨_,ha.ends⟩,_,hother.ends⟩
    · exact absurd rfl hdecided
  · rintro ⟨ha,hother⟩
    exact ha.bind hother

/-- Either the first action fails, or what goes on from its success. -/
lemma andThen_gives_failure {next : Parsed σ τ α → Process (Callee ρ σ τ ε) σ τ ε (Reply σ τ ε β)} :
    (a.andThen next s i).Gives G (.ok .failure) ↔ (a s i).Gives G (.ok .failure) ∨
      ∃ r, (a s i).Gives G (.ok (.success r)) ∧ (next r).Gives G (.ok .failure) := by
  constructor
  · intro h
    rcases Process.gives_bind.mp h with ⟨reply,ha,hnext⟩ | ⟨_,-,hfault⟩
    · cases reply with
      | success r => exact .inr ⟨r,ha,hnext⟩
      | failure => exact .inl ha
      | error e => cases Process.gives_done.mp hnext
    · cases hfault
  · rintro (ha | ⟨r,ha,hnext⟩)
    · exact ha.bind (Process.gives_done.mpr rfl)
    · exact ha.bind hnext

lemma orElse_same (h : (a s i).Same G (a' s i)) (hother : (b s i).Same G (b' s i)) :
    (a.orElse b s i).Same G (a'.orElse b' s i) := by
  refine (h.bind_left _).trans (Process.Same.bind_right fun reply _ => ?_)
  cases reply with
  | failure => exact hother
  | success r => exact .refl _
  | error e => exact .refl _

lemma announcing_same {event event' : Stream τ → Event} (h : (a s i).Same G (a' s i)) :
    (a.announcing event s i).Same G (a'.announcing event' s i) :=
  (Process.Same.emit _ _).trans (h.trans (Process.Same.emit (event' i) fun _ => a' s i).symm)

lemma plus_same (h : (a s i).Same G (a' s i)) (hother : (b s i).Same G (b' s i)) :
    (a.plus b s i).Same G (a'.plus b' s i) := orElse_same h (announcing_same hother)

end Action
end Backtrack
