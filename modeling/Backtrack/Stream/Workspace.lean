import Backtrack.Stream

/-!
Numbered streams. Every stream is made from new tokens, which get a buffer of their own, or
derived from an earlier stream; a number never changes what it stands for.
-/
namespace Backtrack.Stream

universe u

/-- Streams by number, and how many buffers there are so far. -/
structure Workspace (τ : Type u) where
  streams : Array (Stream τ) := #[]
  buffers : Nat := 0

namespace Workspace

variable {τ : Type u}

/-- The stream with this number; one that was never made is empty. -/
def get (w : Workspace τ) (number : Nat) : Stream τ :=
  w.streams[number]?.getD (ofArray w.buffers #[])

/-- Keep a stream under the next number. -/
def keep (w : Workspace τ) (s : Stream τ) : Nat × Workspace τ :=
  (w.streams.size, { w with streams := w.streams.push s })

/-- Put tokens into a new buffer. -/
def make (w : Workspace τ) (tokens : List τ) : Nat × Workspace τ :=
  { w with buffers := w.buffers + 1 }.keep (ofList w.buffers tokens)

/-- A second number for a stream. -/
def clone (w : Workspace τ) (number : Nat) : Nat × Workspace τ := w.keep (w.get number)

/-- The first token of a stream, and the number under which the rest is kept. -/
def splitFirst? (w : Workspace τ) (number : Nat) : Option (τ × Nat × Workspace τ) :=
  (w.get number).splitFirst?.map fun (token, rest) => (token, w.keep rest)

end Workspace
end Backtrack.Stream
