import Backtrack.Proofs.Process.Ends
import Backtrack.Proofs.Process.Trail

/-!
What a process gives in the end, whatever it reports on the way.
-/
namespace Backtrack

variable {ρ : Rules} {σ τ ε : Type} {α β : Type}

namespace Process

/-- The process comes to an end with this result. -/
def Gives (G : Grammar ρ σ τ ε) (p : Process (Callee ρ σ τ ε) σ τ ε β) (result : Except Fault β) :
    Prop := ∃ events, p.config.Ends G ⟨result,events⟩

variable {G : Grammar ρ σ τ ε} {p : Process (Callee ρ σ τ ε) σ τ ε β} {result : Except Fault β}

lemma gives_iff_follow :
    p.Gives G result ↔ ∃ n events, p.follow id (G.answers n) = ⟨events,.ofExcept result⟩ := by
  constructor
  · rintro ⟨events,h⟩
    obtain ⟨n,hn⟩ := (yields_of_ends h).follow_eq
    exact ⟨n,events,hn⟩
  · rintro ⟨n,events,h⟩
    exact ⟨events,(yields_of_follow h).ends⟩

lemma halts_iff_gives : p.config.Halts G ↔ ∃ result, p.Gives G result :=
  ⟨fun ⟨⟨result,events⟩,h⟩ => ⟨result,events,h⟩,fun ⟨_,_,h⟩ => ⟨_,h⟩⟩

lemma Gives.unique {other : Except Fault β} (h : p.Gives G result) (h' : p.Gives G other) :
    result = other := by
  obtain ⟨events,h⟩ := h
  obtain ⟨events',h'⟩ := h'
  exact congrArg Report.result (h.unique h')

lemma gives_done {b : β} : (done b : Process (Callee ρ σ τ ε) σ τ ε β).Gives G result ↔
    result = .ok b := by
  have hdone : (done b : Process (Callee ρ σ τ ε) σ τ ε β).Gives G (.ok b) :=
    ⟨[],(Yields.done b).ends⟩
  exact ⟨fun h => h.unique hdone,fun h => h ▸ hdone⟩

lemma gives_fault {reason : Fault} :
    (fault reason : Process (Callee ρ σ τ ε) σ τ ε β).Gives G result ↔ result = .error reason := by
  have hfault : (fault reason : Process (Callee ρ σ τ ε) σ τ ε β).Gives G (.error reason) :=
    ⟨[],(Yields.fault reason).ends⟩
  exact ⟨fun h => h.unique hfault,fun h => h ▸ hfault⟩

lemma gives_bind {p : Process (Callee ρ σ τ ε) σ τ ε α}
    {f : α → Process (Callee ρ σ τ ε) σ τ ε β} : (p.bind f).Gives G result ↔
      (∃ a, p.Gives G (.ok a) ∧ (f a).Gives G result) ∨
        ∃ reason, p.Gives G (.error reason) ∧ result = .error reason := by
  constructor
  · rintro ⟨events,h⟩
    rcases yields_bind.mp (yields_of_ends h) with ⟨before,a,after,hp,hf,-⟩ | ⟨reason,hp,rfl⟩
    · exact .inl ⟨a,⟨before,hp.ends⟩,after,hf.ends⟩
    · exact .inr ⟨reason,⟨events,hp.ends⟩,rfl⟩
  · rintro (⟨a,⟨before,hp⟩,after,hf⟩ | ⟨reason,⟨events,hp⟩,rfl⟩)
    · exact ⟨before ++ after,((yields_of_ends hp).bind (yields_of_ends hf)).ends⟩
    · exact ⟨events,((yields_of_ends hp).bind_fault f).ends⟩

lemma Gives.bind {p : Process (Callee ρ σ τ ε) σ τ ε α} {f : α → Process (Callee ρ σ τ ε) σ τ ε β}
    {a : α} (h : p.Gives G (.ok a)) (hf : (f a).Gives G result) : (p.bind f).Gives G result :=
  gives_bind.mpr (.inl ⟨a,h,hf⟩)

lemma Gives.bind_fault {p : Process (Callee ρ σ τ ε) σ τ ε α}
    {f : α → Process (Callee ρ σ τ ε) σ τ ε β} {reason : Fault} (h : p.Gives G (.error reason)) :
    (p.bind f).Gives G (.error reason) :=
  gives_bind.mpr (.inr ⟨reason,h,rfl⟩)

lemma Gives.map {p : Process (Callee ρ σ τ ε) σ τ ε α} {a : α} (h : p.Gives G (.ok a))
    (f : α → β) : (p.map f).Gives G (.ok (f a)) :=
  h.bind (gives_done.mpr rfl)

lemma gives_emit {event : Event} {next : Unit → Process (Callee ρ σ τ ε) σ τ ε β} :
    (emit event next).Gives G result ↔ (next ()).Gives G result := by
  constructor
  · rintro ⟨_,h⟩
    obtain ⟨events,hnext,-⟩ := yields_emit.mp (yields_of_ends h)
    exact ⟨events,hnext.ends⟩
  · rintro ⟨events,h⟩
    exact ⟨event :: events,(Yields.emit event (yields_of_ends h)).ends⟩

lemma gives_emit_done {event : Event} {b : β} :
    (emit event fun _ => done b : Process (Callee ρ σ τ ε) σ τ ε β).Gives G result ↔
      result = .ok b :=
  gives_emit.trans gives_done

/-- The process comes to an end. It succeeds with `r` if a condition holds, and fails otherwise. -/
def SucceedsIff (G : Grammar ρ σ τ ε) (p : Process (Callee ρ σ τ ε) σ τ ε (Reply σ τ ε α))
    (accepted : Prop) (r : Parsed σ τ α) : Prop :=
  ∀ result, p.Gives G result ↔
    accepted ∧ result = .ok (.success r) ∨ ¬ accepted ∧ result = .ok .failure

lemma SucceedsIff.congr {p : Process (Callee ρ σ τ ε) σ τ ε (Reply σ τ ε α)} {accepted : Prop}
    {r r' : Parsed σ τ α} (h : p.SucceedsIff G accepted r) (hr : accepted → r = r') :
    p.SucceedsIff G accepted r' := by
  intro result
  rw [h result]
  apply or_congr_left
  apply and_congr_right
  intro haccepted
  rw [hr haccepted]

lemma succeedsIff_of_gives {p : Process (Callee ρ σ τ ε) σ τ ε (Reply σ τ ε α)} {accepted : Prop}
    {r : Parsed σ τ α} (hsuccess : accepted → p.Gives G (.ok (.success r)))
    (hfailure : ¬ accepted → p.Gives G (.ok .failure)) : p.SucceedsIff G accepted r := by
  intro result
  constructor
  · intro h
    by_cases haccepted : accepted
    · exact .inl ⟨haccepted,h.unique (hsuccess haccepted)⟩
    · exact .inr ⟨haccepted,h.unique (hfailure haccepted)⟩
  · rintro (⟨haccepted,rfl⟩ | ⟨haccepted,rfl⟩)
    · exact hsuccess haccepted
    · exact hfailure haccepted

end Process
end Backtrack
