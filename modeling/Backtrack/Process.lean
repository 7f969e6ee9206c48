import Backtrack.Event
import Backtrack.Parser.Basic

/-!
Parses in progress. A process is what remains of a parse: an answer, a fault, an event to report,
or a call that has to be answered first. A call is data, so a process never runs through a
self-reference by itself.
-/
namespace Backtrack

/-- What remains of a parse that ends in an answer of type `β`. -/
inductive Process (κ : Type → Type 1) (σ τ ε : Type) (β : Type) : Type 1
  | done (answer : β)
  | fault (reason : Fault)
  | emit (event : Event) (next : Unit → Process κ σ τ ε β)
  | call {α : Type} (callee : κ α) (state : σ) (input : Stream τ)
      (next : Reply σ τ ε α → Process κ σ τ ε β)

namespace Process

variable {κ : Type → Type 1} {σ τ ε : Type} {α β γ : Type}

/-- Go on from the answer. -/
def bind : Process κ σ τ ε α → (α → Process κ σ τ ε β) → Process κ σ τ ε β
  | done a, f => f a
  | fault reason, _ => fault reason
  | emit event next, f => emit event fun u => (next u).bind f
  | call callee s i next, f => call callee s i fun r => (next r).bind f

/-- Go on from the answer with a plain function. -/
def map (f : α → β) (p : Process κ σ τ ε α) : Process κ σ τ ε β := p.bind fun a => done (f a)

@[simp] theorem done_bind (a : α) (f : α → Process κ σ τ ε β) : (done a).bind f = f a := rfl

@[simp] theorem bind_done (p : Process κ σ τ ε α) : p.bind done = p := by
  induction p with
  | done => rfl
  | fault => rfl
  | emit event next ih => simp [bind, ih]
  | call callee s i next ih => simp [bind, ih]

theorem bind_assoc (p : Process κ σ τ ε α) (f : α → Process κ σ τ ε β)
    (g : β → Process κ σ τ ε γ) : (p.bind f).bind g = p.bind fun a => (f a).bind g := by
  induction p with
  | done => rfl
  | fault => rfl
  | emit event next ih => simp [bind, ih]
  | call callee s i next ih => simp [bind, ih]

/-- Report events in order, then go on. -/
def emitAll (events : List Event) (p : Process κ σ τ ε β) : Process κ σ τ ε β :=
  events.foldr (fun event next => .emit event fun _ => next) p

@[simp] theorem emitAll_bind (events : List Event) (p : Process κ σ τ ε α)
    (f : α → Process κ σ τ ε β) : (emitAll events p).bind f = emitAll events (p.bind f) := by
  induction events with
  | nil => rfl
  | cons event events ih =>
    show emit event (fun _ => (emitAll events p).bind f) = _
    rw [ih]
    rfl

@[simp] theorem emitAll_emitAll (before after : List Event) (p : Process κ σ τ ε β) :
    emitAll before (emitAll after p) = emitAll (before ++ after) p := by
  simp [emitAll]

theorem emit_eq_emitAll (event : Event) (p : Process κ σ τ ε β) :
    emit event (fun _ => p) = emitAll [event] p := rfl

@[simp] theorem emitAll_nil (p : Process κ σ τ ε β) : emitAll [] p = p := rfl

end Process
end Backtrack
