/-!
Three-way outcomes. A success carries a value, a failure says that this alternative does not
apply, and an error is committed: choice passes over failures only, so an error always reaches
the caller.
-/
namespace Backtrack

universe u v w

/-- The kind of an outcome, without what it carries. -/
inductive Verdict
  | success
  | failure
  | error
  deriving DecidableEq, Repr

/-- The name under which a verdict is reported. -/
def Verdict.name : Verdict → String
  | success => "success"
  | failure => "failure"
  | error => "error"

/-- The result of an attempt: a value, a recoverable failure, or a committed error. -/
inductive Outcome (α : Type u) (ε : Type v)
  | success (value : α)
  | failure
  | error (payload : ε)
  deriving DecidableEq, Repr

/-- Why an outcome has no value. -/
inductive Rejection (ε : Type v)
  | noMatch
  | fatal (payload : ε)
  deriving DecidableEq, Repr

namespace Outcome

variable {α : Type u} {β : Type w} {ε : Type v}

def verdict : Outcome α ε → Verdict
  | success _ => .success
  | failure => .failure
  | error _ => .error

def isSuccess (x : Outcome α ε) : Bool := x.verdict == .success
def isFailure (x : Outcome α ε) : Bool := x.verdict == .failure
def isError (x : Outcome α ε) : Bool := x.verdict == .error

@[simp] theorem isError_success (a : α) : (success a : Outcome α ε).isError = false := rfl

@[simp] theorem isError_failure : (failure : Outcome α ε).isError = false := rfl

@[simp] theorem isError_error (e : ε) : (error e : Outcome α ε).isError = true := rfl

/-- Transform the value; failures and errors pass through. -/
def map (f : α → β) : Outcome α ε → Outcome β ε
  | success a => success (f a)
  | failure => failure
  | error e => error e

/-- Go on from the value; failures and errors pass through. -/
def bind (x : Outcome α ε) (f : α → Outcome β ε) : Outcome β ε :=
  match x with
  | success a => f a
  | failure => failure
  | error e => error e

/-- Apply an attempted function. The function's own failure or error decides first. -/
def ap (f : Outcome (α → β) ε) (x : Outcome α ε) : Outcome β ε :=
  f.bind fun g => x.map g

/-- Left-biased choice whose second side is asked for only after a failure. -/
def orElse (x : Outcome α ε) (other : Unit → Outcome α ε) : Outcome α ε :=
  match x with
  | failure => other ()
  | decided => decided

/-- Left-biased choice: only a failure falls through to `other`. -/
def plus (x other : Outcome α ε) : Outcome α ε := x.orElse fun _ => other

/-- Transform the payload of an error. -/
def mapError {δ : Type w} (f : ε → δ) : Outcome α ε → Outcome α δ
  | success a => success a
  | failure => failure
  | error e => error (f e)

def toOption : Outcome α ε → Option α
  | success a => some a
  | failure => none
  | error _ => none

/-- Both ways to have no value, folded into one kind of error. -/
def toExcept : Outcome α ε → Except (Rejection ε) α
  | success a => .ok a
  | failure => .error .noMatch
  | error e => .error (.fatal e)

/-- A plain result has no recoverable failure: its error is committed. -/
def ofExcept : Except ε α → Outcome α ε
  | .ok a => success a
  | .error e => error e

/-- The structure of an outcome as text, given texts for what it carries. -/
def describe (value : α → String) (payload : ε → String) : Outcome α ε → String
  | success a => "Success(" ++ value a ++ ")"
  | failure => "Failure"
  | error e => "Error(" ++ payload e ++ ")"

end Outcome

namespace Rejection

variable {ε : Type v}

/-- The committed payload, if there is one. -/
def fatal? : Rejection ε → Option ε
  | noMatch => none
  | fatal e => some e

/-- What to tell a user. -/
def text (payload : ε → String) : Rejection ε → String
  | noMatch => "input did not match"
  | fatal e => payload e

def describe (payload : ε → String) : Rejection ε → String
  | noMatch => "NoMatch"
  | fatal e => "Fatal(" ++ payload e ++ ")"

/-- The complaint of a caller that insisted on a value. -/
def complaint (payload : ε → String) : Rejection ε → String
  | noMatch => "called `Outcome::unwrap()` on `Failure`"
  | fatal e => "called `Outcome::unwrap()` on `Error`: " ++ payload e

end Rejection
end Backtrack
