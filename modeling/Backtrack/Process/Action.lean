import Backtrack.Process

/-!
Actions: what a parser does, as a function from state and tokens to a process. There is one
operation for each way to build a parser.
-/
namespace Backtrack

/-- What a parser does on a state and a stream. -/
abbrev Action (κ : Type → Type 1) (σ τ ε α : Type) :=
  σ → Stream τ → Process κ σ τ ε (Reply σ τ ε α)

namespace Action

variable {κ : Type → Type 1} {σ τ ε : Type} {α β : Type}

/-- Answer at once, without touching state or tokens. -/
def pure (value : α) : Action κ σ τ ε α := fun s i => .done (.success ⟨s, i, value⟩)

def zero : Action κ σ τ ε α := fun _ _ => .done .failure

def error (payload : ε) : Action κ σ τ ε α := fun _ _ => .done (.error payload)

def item : Action κ σ τ ε τ := fun s i =>
  match i.splitFirst? with
  | some (token, rest) => .emit (.item i.offset) fun _ => .done (.success ⟨s, rest, token⟩)
  | none => .done .failure

theorem item_nil {i : Stream τ} (h : i.remaining = []) (s : σ) :
    (item s i : Process κ σ τ ε _) = .done .failure := by
  simp [item, Stream.splitFirst?_eq_none h]

theorem item_cons {i : Stream τ} {token : τ} {rest : List τ} (h : i.remaining = token :: rest)
    (s : σ) : (item s i : Process κ σ τ ε _) =
      .emit (.item i.offset) fun _ => .done (.success ⟨s, i.advance 1, token⟩) := by
  simp [item, Stream.splitFirst?_eq_some h]

def get : Action κ σ τ ε (Stream τ) := fun s i => .done (.success ⟨s, i, i⟩)

def put (tokens : Stream τ) : Action κ σ τ ε Unit := fun s _ => .done (.success ⟨s, tokens, ()⟩)

def getState : Action κ σ τ ε σ := fun s i => .done (.success ⟨s, i, s⟩)

def putState (state : σ) : Action κ σ τ ε Unit := fun _ i => .done (.success ⟨state, i, ()⟩)

def updateState (update : σ → Except Fault σ) : Action κ σ τ ε Unit := fun s i =>
  match update s with
  | .ok state => .done (.success ⟨state, i, ()⟩)
  | .error reason => .fault reason

def map (f : α → β) (a : Action κ σ τ ε α) : Action κ σ τ ε β := fun s i =>
  (a s i).map (·.map (·.map f))

/-- Go on after a success, on the state and the tokens that it left. -/
def andThen (a : Action κ σ τ ε α) (next : Parsed σ τ α → Process κ σ τ ε (Reply σ τ ε β)) :
    Action κ σ τ ε β := fun s i =>
  (a s i).bind fun
    | .success r => next r
    | .failure => .done .failure
    | .error e => .done (.error e)

def bind (a : Action κ σ τ ε α) (next : α → Action κ σ τ ε β) : Action κ σ τ ε β :=
  a.andThen fun r => next r.value r.state r.rest

def check (accept : α → Bool) (a : Action κ σ τ ε α) : Action κ σ τ ε α :=
  a.andThen fun r => .done (if accept r.value then .success r else .failure)

/-- Run actions of several types in order, each on the state and the tokens that the one before it
left, and make one value of theirs. -/
def tuple : (n : Nat) → (types : Fin n → Type) → ((k : Fin n) → Action κ σ τ ε (types k)) →
    (((k : Fin n) → types k) → β) → Action κ σ τ ε β
  | 0, _, _, make => pure (make nofun)
  | n + 1, types, actions, make => (actions 0).bind fun value =>
    tuple n (fun k => types k.succ) (fun k => actions k.succ) fun values =>
      make (Fin.cases value values)

/-- Run actions in order; `values` holds the values so far, newest first. -/
def sequenceFrom (values : List α) : List (Action κ σ τ ε α) → Action κ σ τ ε (List α)
  | [] => pure values.reverse
  | a :: rest => a.andThen fun r => sequenceFrom (r.value :: values) rest r.state r.rest

def sequence (actions : List (Action κ σ τ ε α)) : Action κ σ τ ε (List α) :=
  sequenceFrom [] actions

/-- Go on after a failure, from where the action began. -/
def orElse (a : Action κ σ τ ε α) (other : Action κ σ τ ε α) : Action κ σ τ ε α := fun s i =>
  (a s i).bind fun
    | .failure => other s i
    | decided => .done decided

/-- Report an event, then act. -/
def announcing (event : Stream τ → Event) (a : Action κ σ τ ε α) : Action κ σ τ ε α := fun s i =>
  .emit (event i) fun _ => a s i

def plus (a b : Action κ σ τ ε α) : Action κ σ τ ε α :=
  a.orElse (b.announcing fun i => .plusBacktrack i.offset)

/-- Try actions in order; `index` is the place of the first one among all alternatives. -/
def choiceFrom (index : Nat) : List (Action κ σ τ ε α) → Action κ σ τ ε α
  | [] => zero
  | a :: rest =>
    a.orElse ((choiceFrom (index + 1) rest).announcing fun i => .altBacktrack index i.offset)

def choice (actions : List (Action κ σ τ ε α)) : Action κ σ τ ε α := choiceFrom 0 actions

/-- Repeat from a state and a stream; `values` holds the values so far, newest first. A round that
does not shorten the input would be repeated forever, so it is a fault. -/
def many0From (a : Action κ σ τ ε α) (values : List α) (s : σ) (i : Stream τ) :
    Process κ σ τ ε (Reply σ τ ε (List α)) :=
  (a s i).bind fun
    | .success r =>
      if r.rest.length < i.length then many0From a (r.value :: values) r.state r.rest
      else .fault (.stalled i.offset)
    | .failure =>
      .emit (.many0Done values.length i.offset) fun _ => .done (.success ⟨s, i, values.reverse⟩)
    | .error e => .done (.error e)
termination_by i.length

def many0 (a : Action κ σ τ ε α) : Action κ σ τ ε (List α) := many0From a []

def maybe (a : Action κ σ τ ε α) : Action κ σ τ ε (Option α) := (a.map some).orElse (pure none)

def not0 (a : Action κ σ τ ε α) : Action κ σ τ ε Unit := fun s i =>
  (a s i).map fun
    | .success _ => .failure
    | .failure => .success ⟨s, i, ()⟩
    | .error e => .error e

def lookahead (a : Action κ σ τ ε α) : Action κ σ τ ε α := fun s i =>
  (a s i).map (·.map fun r => { r with rest := i })

def commit (payload : ε) (a : Action κ σ τ ε α) : Action κ σ τ ε α :=
  a.orElse ((error payload).announcing fun i => .commitEscalated i.offset)

def catchError (a : Action κ σ τ ε α) (handler : ε → Action κ σ τ ε α) : Action κ σ τ ε α :=
  fun s i =>
    (a s i).bind fun
      | .error e => handler e s i
      | decided => .done decided

def mapError (f : ε → ε) (a : Action κ σ τ ε α) : Action κ σ τ ε α := fun s i =>
  (a s i).map (·.mapError f)

def call (callee : κ α) : Action κ σ τ ε α := fun s i => .call callee s i .done

/-- How many tokens a reply to `input` has consumed. Only a success consumes, and other tokens put
in place of the input may be more than there were. -/
def consumed (input : Stream τ) : Reply σ τ ε α → Nat
  | .success r => input.length - r.rest.length
  | .failure => 0
  | .error _ => 0

/-- A whole run, which reports its beginning and its end. -/
def run (a : Action κ σ τ ε α) : Action κ σ τ ε α := fun s i =>
  .emit (.run i.length) fun _ => (a s i).bind fun reply =>
    .emit (.runFinished reply.verdict (consumed i reply)) fun _ => .done reply

/-- A run apart, on its own state and tokens, that leaves only its verdict. -/
def trial (a : Action κ σ τ ε α) (state : σ) (tokens : Stream τ) : Action κ σ τ ε Verdict :=
  fun s i => (a.run state tokens).map fun reply => .success ⟨s, i, reply.verdict⟩

end Action
end Backtrack
