import Backtrack.Process.Machine

/-!
What a process yields, said without a machine. `Process.Yields.finish_eq` says that the machine
computes it.
-/
namespace Backtrack

variable {ρ : Rules} {σ τ ε : Type} {α β ω : Type}

namespace Process

/-- The process ends with this result after these events, every call being answered on the way. -/
inductive Yields (G : Grammar ρ σ τ ε) :
    {β : Type} → Process (Callee ρ σ τ ε) σ τ ε β → List Event → Except Fault β → Prop
  | done {β : Type} (b : β) : Yields G (.done b) [] (.ok b)
  | fault {β : Type} (reason : Fault) :
      Yields G (.fault reason : Process (Callee ρ σ τ ε) σ τ ε β) [] (.error reason)
  | emit {β : Type} {next : Unit → Process (Callee ρ σ τ ε) σ τ ε β} {events : List Event}
      {result : Except Fault β} (event : Event) (rest : Yields G (next ()) events result) :
      Yields G (.emit event next) (event :: events) result
  | call {α β : Type} {callee : Callee ρ σ τ ε α} {s : σ} {i : Stream τ}
      {next : Reply σ τ ε α → Process (Callee ρ σ τ ε) σ τ ε β} {before after : List Event}
      {reply : Reply σ τ ε α} {result : Except Fault β}
      (answer : Yields G (callee.action G s i) before (.ok reply))
      (rest : Yields G (next reply) after result) :
      Yields G (.call callee s i next) (before ++ after) result
  | callFault {α β : Type} {callee : Callee ρ σ τ ε α} {s : σ} {i : Stream τ}
      {next : Reply σ τ ε α → Process (Callee ρ σ τ ε) σ τ ε β} {events : List Event} {reason : Fault}
      (answer : Yields G (callee.action G s i) events (.error reason)) :
      Yields G (.call callee s i next) events (.error reason)

variable {G : Grammar ρ σ τ ε}

/-- If a process ends, the machine ends as its callers do on the answer, or with the fault. -/
theorem Yields.ends_of_answer {p : Process (Callee ρ σ τ ε) σ τ ε β} {events : List Event}
    {result : Except Fault β} (h : p.Yields G events result) (stack : Stack ρ σ τ ε ω β)
    (trace : List Event) {report : Report ω}
    (callers : ∀ b, result = .ok b →
      Config.Ends G ⟨.done b, stack, events.reverse ++ trace⟩ report)
    (faults : ∀ reason, result = .error reason →
      report = ⟨.error reason, trace.reverse ++ events⟩) :
    Config.Ends G ⟨p, stack, trace⟩ report := by
  induction h generalizing trace with
  | done b => exact callers b rfl
  | fault reason => exact .stop (by simp [Config.step, faults reason rfl])
  | emit event rest ih =>
    refine .next rfl (ih stack _ (fun b hb => ?_) fun reason hr => ?_)
    · simpa using callers b hb
    · simpa using faults reason hr
  | @call α β callee s i next before after reply result answer rest ihAnswer ihRest =>
    refine .next rfl (ihAnswer _ _ (fun r hr => ?_) fun reason hr => by simp at hr)
    obtain rfl : reply = r := by simpa using hr
    refine .next rfl (ihRest stack _ (fun b hb => ?_) fun reason hr => ?_)
    · simpa using callers b hb
    · simpa using faults reason hr
  | callFault answer ih =>
    exact .next rfl (ih _ _ (fun r hr => by simp at hr) fun reason hr => by
      simpa using faults reason (by simpa using hr))

/-- The machine computes what a process yields. -/
theorem Yields.ends {p : Process (Callee ρ σ τ ε) σ τ ε ω} {events : List Event}
    {result : Except Fault ω} (h : p.Yields G events result) : p.config.Ends G ⟨result, events⟩ :=
  h.ends_of_answer .base [] (fun b hb => .stop (by simp [Config.step, hb]))
    fun reason hr => by simp [hr]

/-- A process that ends lets the machine halt. -/
theorem Yields.halts {p : Process (Callee ρ σ τ ε) σ τ ε ω} {events : List Event}
    {result : Except Fault ω} (h : p.Yields G events result) : p.config.Halts G := ⟨_, h.ends⟩

theorem Yields.finish_eq {p : Process (Callee ρ σ τ ε) σ τ ε ω} {events : List Event}
    {result : Except Fault ω} (h : p.Yields G events result) (halts : p.config.Halts G) :
    p.finish G halts = ⟨result, events⟩ :=
  h.ends.finish_eq halts

/-- A process goes on exactly from what it answers. -/
theorem Yields.bind {p : Process (Callee ρ σ τ ε) σ τ ε α}
    {f : α → Process (Callee ρ σ τ ε) σ τ ε β} {before after : List Event} {a : α}
    {result : Except Fault β} (h : p.Yields G before (.ok a))
    (hf : (f a).Yields G after result) : (p.bind f).Yields G (before ++ after) result := by
  generalize hr : (Except.ok a : Except Fault α) = r at h
  induction h with
  | done b =>
    obtain rfl : a = b := by simpa using hr
    exact hf
  | fault => simp at hr
  | emit event _ ih => exact .emit event (ih hf hr)
  | call answer _ _ ih =>
    rw [List.append_assoc]
    exact .call answer (ih hf hr)
  | callFault => simp at hr

/-- A fault ends every process around it. -/
theorem Yields.bind_fault {p : Process (Callee ρ σ τ ε) σ τ ε α}
    (f : α → Process (Callee ρ σ τ ε) σ τ ε β) {events : List Event} {reason : Fault}
    (h : p.Yields G events (.error reason)) :
    (p.bind f).Yields G events (.error reason) := by
  generalize hr : (Except.error reason : Except Fault α) = r at h
  induction h with
  | done b => simp at hr
  | fault =>
    obtain rfl := by simpa using hr
    exact .fault _
  | emit event _ ih => exact .emit event (ih f hr)
  | call answer _ _ ih => exact .call answer (ih f hr)
  | callFault answer =>
    obtain rfl := by simpa using hr
    exact .callFault answer

end Process
end Backtrack
