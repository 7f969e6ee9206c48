import Backtrack.Parser.Meaning

/-!
A machine that answers calls. Callers wait on an explicit stack, so the depth of self-reference is
bounded by memory only. A run takes a number of steps, or goes to the end of a configuration that
is known to halt.
-/
namespace Backtrack

variable {ρ : Rules} {σ τ ε : Type} {α β ω : Type}

/-- Callers that wait for a reply, the innermost first. The last one gets the result `ω`. -/
inductive Stack (ρ : Rules) (σ τ ε : Type) (ω : Type) : Type → Type 1
  | base : Stack ρ σ τ ε ω ω
  | push {α β : Type} (next : Reply σ τ ε α → Process (Callee ρ σ τ ε) σ τ ε β)
      (below : Stack ρ σ τ ε ω β) : Stack ρ σ τ ε ω (Reply σ τ ε α)

/-- A process, who waits for it, and the events so far, newest first. -/
structure Config (ρ : Rules) (σ τ ε : Type) (ω : Type) : Type 1 where
  {answer : Type}
  focus : Process (Callee ρ σ τ ε) σ τ ε answer
  stack : Stack ρ σ τ ε ω answer
  trace : List Event

/-- The end of an evaluation: an answer or a fault, and the events on the way. -/
structure Report (ω : Type) where
  result : Except Fault ω
  events : List Event

/-- One step ahead, or the end. -/
inductive Progress (ρ : Rules) (σ τ ε : Type) (ω : Type) : Type 1
  | next (config : Config ρ σ τ ε ω)
  | stop (report : Report ω)

namespace Config

/-- Report an event, call, return to the innermost caller, or stop. -/
def step (G : Grammar ρ σ τ ε) : Config ρ σ τ ε ω → Progress ρ σ τ ε ω
  | ⟨.done a, .base, trace⟩ => .stop ⟨.ok a, trace.reverse⟩
  | ⟨.done reply, .push next below, trace⟩ => .next ⟨next reply, below, trace⟩
  | ⟨.fault reason, _, trace⟩ => .stop ⟨.error reason, trace.reverse⟩
  | ⟨.emit event next, stack, trace⟩ => .next ⟨next (), stack, event :: trace⟩
  | ⟨.call callee s i next, stack, trace⟩ => .next ⟨callee.action G s i, .push next stack, trace⟩

/-- Take at most `fuel` steps. -/
def runFor (G : Grammar ρ σ τ ε) : Nat → Config ρ σ τ ε ω → Option (Report ω)
  | 0, _ => none
  | fuel + 1, c =>
    match c.step G with
    | .next d => runFor G fuel d
    | .stop report => some report

/-- The machine comes to this end. -/
inductive Ends (G : Grammar ρ σ τ ε) : Config ρ σ τ ε ω → Report ω → Prop
  | stop {c : Config ρ σ τ ε ω} {report : Report ω} (h : c.step G = .stop report) : Ends G c report
  | next {c d : Config ρ σ τ ε ω} {report : Report ω} (h : c.step G = .next d)
      (rest : Ends G d report) : Ends G c report

/-- The machine comes to some end. -/
def Halts (G : Grammar ρ σ τ ε) (c : Config ρ σ τ ε ω) : Prop := ∃ report, c.Ends G report

variable {G : Grammar ρ σ τ ε} {c d : Config ρ σ τ ε ω} {report : Report ω}

theorem Ends.after (h : c.Ends G report) (hstep : c.step G = .next d) : d.Ends G report := by
  cases h with
  | stop h => simp [h] at hstep
  | next h rest =>
    obtain rfl : _ = d := by simpa [h] using hstep
    exact rest

theorem Halts.after (h : c.Halts G) (hstep : c.step G = .next d) : d.Halts G :=
  h.elim fun _ ends => ⟨_, ends.after hstep⟩

theorem Ends.unique {other : Report ω} (h : c.Ends G report) (h' : c.Ends G other) :
    report = other := by
  induction h with
  | stop h =>
    cases h' with
    | stop h' => simpa [h] using h'
    | next h' => simp [h] at h'
  | next h _ ih => exact ih (h'.after h)

/-- Configurations that halt are well founded by their steps. -/
instance (G : Grammar ρ σ τ ε) : WellFoundedRelation { c : Config ρ σ τ ε ω // c.Halts G } where
  rel d c := c.1.step G = .next d.1
  wf := ⟨fun c => by
    obtain ⟨c, report, h⟩ := c
    induction h with
    | stop h => exact ⟨_, fun d hd => by simp [h] at hd⟩
    | next h rest ih =>
      refine ⟨_, fun d hd => ?_⟩
      obtain ⟨d, hd'⟩ := d
      obtain rfl : _ = d := by simpa [h] using hd
      exact ih⟩

/-- Run a configuration that halts to its end. -/
def finish (G : Grammar ρ σ τ ε) (c : { c : Config ρ σ τ ε ω // c.Halts G }) : Report ω :=
  match h : c.1.step G with
  | .next d => finish G ⟨d, c.2.after h⟩
  | .stop report => report
termination_by c

theorem Ends.finish_eq (h : c.Ends G report) (halts : c.Halts G) :
    finish G ⟨c, halts⟩ = report := by
  induction h with
  | stop h =>
    rw [finish]
    split
    · next d hd => simp [h] at hd
    · next r hr => simpa [h] using hr.symm
  | next h rest ih =>
    rw [finish]
    split
    · next d hd =>
      obtain rfl : _ = d := by simpa [h] using hd
      exact ih _
    · next r hr => simp [h] at hr

/-- Enough fuel reaches the end. -/
theorem Ends.runFor_eq (h : c.Ends G report) : ∃ fuel, c.runFor G fuel = some report := by
  induction h with
  | stop h => exact ⟨1, by simp [runFor, h]⟩
  | next h rest ih =>
    obtain ⟨fuel, ih⟩ := ih
    exact ⟨fuel + 1, by simp [runFor, h, ih]⟩

end Config

namespace Process

/-- The process on its own, with no caller and no event yet. -/
def config (p : Process (Callee ρ σ τ ε) σ τ ε ω) : Config ρ σ τ ε ω := ⟨p, .base, []⟩

/-- Run a process that halts to its end. -/
def finish (G : Grammar ρ σ τ ε) (p : Process (Callee ρ σ τ ε) σ τ ε ω) (h : p.config.Halts G) :
    Report ω :=
  Config.finish G ⟨p.config, h⟩

end Process
end Backtrack
