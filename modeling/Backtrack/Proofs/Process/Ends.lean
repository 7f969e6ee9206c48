import Backtrack.Process.Yields
import Mathlib.Tactic.Common

/-!
The machine comes to no other end than what a process yields. With `Process.Yields.ends` the two
ways to say what a process does are the same.
-/
namespace Backtrack

variable {ρ : Rules} {σ τ ε : Type} {β ω : Type} {G : Grammar ρ σ τ ε}

namespace Process

/-- A machine that stops within `fuel` steps has first evaluated its focus. Either the callers go
on from the answer with the fuel that is left, or the machine stops with the fault. -/
lemma yields_of_runFor {fuel : ℕ} {p : Process (Callee ρ σ τ ε) σ τ ε β}
    {stack : Stack ρ σ τ ε ω β} {trace : List Event} {report : Report ω}
    (h : Config.runFor G fuel ⟨p,stack,trace⟩ = some report) :
    ∃ events result, p.Yields G events result ∧
      (∀ b, result = .ok b → ∃ left ≤ fuel,
        Config.runFor G left ⟨.done b,stack,events.reverse ++ trace⟩ = some report) ∧
      ∀ reason, result = .error reason → report = ⟨.error reason,trace.reverse ++ events⟩ := by
  induction fuel using Nat.strongRecOn generalizing β p stack trace with
  | _ fuel ih =>
    cases p with
    | done b =>
      refine ⟨[],.ok b,.done b,fun b' hb => ?_,fun reason hr => by simp at hr⟩
      obtain rfl : b = b' := by simpa using hb
      exact ⟨fuel,Nat.le_refl fuel,h⟩
    | fault reason =>
      refine ⟨[],.error reason,.fault reason,fun b hb => by simp at hb,fun reason' hr => ?_⟩
      obtain rfl : reason = reason' := by simpa using hr
      cases fuel with
      | zero => simp [Config.runFor] at h
      | succ fuel => simpa [Config.runFor,Config.step] using h.symm
    | emit event next =>
      cases fuel with
      | zero => simp [Config.runFor] at h
      | succ fuel =>
        obtain ⟨events,result,hnext,hanswer,hfault⟩ := ih fuel (by omega) h
        refine ⟨event :: events,result,.emit event hnext,fun b hb => ?_,fun reason hr => ?_⟩
        · obtain ⟨left,hleft,hrun⟩ := hanswer b hb
          exact ⟨left,by omega,by simpa using hrun⟩
        · simpa using hfault reason hr
    | call callee s i next =>
      cases fuel with
      | zero => simp [Config.runFor] at h
      | succ fuel =>
        obtain ⟨before,result,hcallee,hanswer,hfault⟩ := ih fuel (by omega) h
        cases result with
        | error reason =>
          refine ⟨before,.error reason,.callFault hcallee,fun b hb => by simp at hb,fun reason' hr => ?_⟩
          exact hfault reason' (by simpa using hr)
        | ok reply =>
          obtain ⟨left,hleft,hrun⟩ := hanswer reply rfl
          cases left with
          | zero => simp [Config.runFor] at hrun
          | succ left =>
            obtain ⟨after,result,hnext,hanswer,hfault⟩ := ih left (by omega) hrun
            refine ⟨before ++ after,result,.call hcallee hnext,fun b hb => ?_,fun reason hr => ?_⟩
            · obtain ⟨last,hlast,hrun⟩ := hanswer b hb
              exact ⟨last,by omega,by simpa using hrun⟩
            · simpa using hfault reason hr

variable {p : Process (Callee ρ σ τ ε) σ τ ε ω} {events : List Event} {result : Except Fault ω}

lemma yields_of_ends (h : p.config.Ends G ⟨result,events⟩) : p.Yields G events result := by
  obtain ⟨fuel,hfuel⟩ := h.runFor_eq
  obtain ⟨events',result',hp,-,-⟩ := yields_of_runFor hfuel
  have h' := hp.ends.unique h
  simp only [Report.mk.injEq] at h'
  obtain ⟨rfl,rfl⟩ := h'
  exact hp

/-- What a process yields is what the machine computes. -/
theorem yields_iff_ends : p.Yields G events result ↔ p.config.Ends G ⟨result,events⟩ :=
  ⟨Yields.ends,yields_of_ends⟩

end Process
end Backtrack
