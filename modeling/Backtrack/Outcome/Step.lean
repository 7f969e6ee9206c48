import Backtrack.Outcome
import Backtrack.Text.Quoted

/-!
Outcomes step by step: a session applies operations to outcomes of 64-bit integers with texts as
payloads. Arithmetic wraps around.
-/
namespace Backtrack.Outcome

/-- The outcomes of a session. -/
abbrev Sample := Outcome Int64 String

namespace Sample

def describe (x : Sample) : String := Outcome.describe toString Text.quotedString x

/-- Half of an even number; odd numbers have no half. -/
def half (n : Int64) : Sample :=
  if n.toInt % 2 = 0 then .success (Int64.ofInt (n.toInt / 2)) else .failure

/-- All three kinds of outcome, by the remainder modulo 3. -/
def trifold (n : Int64) : Sample :=
  if n.toInt % 3 = 0 then .success (2 * n)
  else if n.toInt % 3 = 1 then .failure
  else .error ("step " ++ toString n)

end Sample

/-- A step that makes the next outcome. -/
inductive Step
  | add (n : Int64)
  | mul (n : Int64)
  | neg
  | bindPure
  | bindZero
  | bindError (payload : String)
  | bindHalf
  | bindTrifold
  /-- Subtract the value of another outcome, through an attempted function. -/
  | apSubtract (x : Sample)
  | plus (x : Sample)
  | orElse (x : Sample)
  /-- Put a text before the payload. -/
  | mapErrorBefore (text : String)
  /-- Replace the payload by its number of characters. -/
  | mapErrorLength
  | set (x : Sample)
  | ofExcept (x : Except String Int64)

def Step.apply (x : Sample) : Step → Sample
  | add n => x.map (· + n)
  | mul n => x.map (· * n)
  | neg => x.map (fun n => -n)
  | bindPure => x.bind .success
  | bindZero => x.bind fun _ => .failure
  | bindError payload => x.bind fun _ => .error payload
  | bindHalf => x.bind Sample.half
  | bindTrifold => x.bind Sample.trifold
  | apSubtract y => (x.map fun n m => n - m).ap y
  | plus y => x.plus y
  | orElse y => x.orElse fun _ => y
  | mapErrorBefore text => x.mapError (text ++ ·)
  | mapErrorLength => x.mapError fun payload => toString payload.length
  | set y => y
  | ofExcept y => Outcome.ofExcept y

end Backtrack.Outcome
