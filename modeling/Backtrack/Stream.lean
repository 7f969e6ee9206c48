import Backtrack.Text.Tree

/-!
Token streams: the tokens of a buffer from an offset on. Consuming a token gives a stream one
place further along the same buffer, and backtracking is keeping the older stream.
-/
namespace Backtrack

universe u

/-- A sequence of tokens with an identity of its own: two buffers made apart differ in their
label, also when they hold the same tokens. -/
structure Buffer (τ : Type u) where
  label : Nat
  tokens : Array τ

/-- The tokens of `buffer` that are not yet consumed. -/
structure Stream (τ : Type u) where
  buffer : Buffer τ
  /-- Place of the first remaining token in the buffer. -/
  offset : Nat

namespace Stream

variable {τ : Type u}

/-- A new buffer, read from its first token. -/
def ofArray (label : Nat) (tokens : Array τ) : Stream τ := ⟨⟨label, tokens⟩, 0⟩

def ofList (label : Nat) (tokens : List τ) : Stream τ := ofArray label tokens.toArray

/-- The offset lies within the buffer or at its end. -/
def Valid (s : Stream τ) : Prop := s.offset ≤ s.buffer.tokens.size

/-- The remaining tokens in order. -/
def remaining (s : Stream τ) : List τ := s.buffer.tokens.toList.drop s.offset

def length (s : Stream τ) : Nat := s.buffer.tokens.size - s.offset

def isEmpty (s : Stream τ) : Bool := s.length == 0

/-- The next token, which stays in the stream. -/
def first? (s : Stream τ) : Option τ := s.buffer.tokens[s.offset]?

/-- The next token and the stream after it. -/
def splitFirst? (s : Stream τ) : Option (τ × Stream τ) :=
  s.first?.map fun token => (token, { s with offset := s.offset + 1 })

/-- The stream from `n` tokens further along. -/
def advance (s : Stream τ) (n : Nat) : Stream τ := { s with offset := s.offset + n }

/-- The same buffer, and not behind `t`. -/
def isSuffixOf (s t : Stream τ) : Bool :=
  s.buffer.label == t.buffer.label && t.offset ≤ s.offset

/-- Streams compare by what remains, not by the buffer that holds it. -/
instance [BEq τ] : BEq (Stream τ) := ⟨fun s t => s.remaining == t.remaining⟩

def describe (token : τ → String) (s : Stream τ) : String := Text.list (s.remaining.map token)

@[simp] theorem remaining_ofList (label : Nat) (tokens : List τ) :
    (ofList label tokens).remaining = tokens := by
  simp [ofList, ofArray, remaining]

@[simp] theorem length_remaining (s : Stream τ) : s.remaining.length = s.length := by
  simp [remaining, length]

theorem first?_eq_head? (s : Stream τ) : s.first? = s.remaining.head? := by
  simp [first?, remaining, List.head?_drop]

@[simp] theorem advance_zero (s : Stream τ) : s.advance 0 = s := rfl

@[simp] theorem advance_advance (s : Stream τ) (m n : Nat) :
    (s.advance m).advance n = s.advance (m + n) := by
  simp [advance, Nat.add_assoc]

@[simp] theorem remaining_advance (s : Stream τ) (n : Nat) :
    (s.advance n).remaining = s.remaining.drop n := by
  simp [advance, remaining]

theorem remaining_advance_of_append {s : Stream τ} {front back : List τ}
    (h : s.remaining = front ++ back) : (s.advance front.length).remaining = back := by
  simp [h]

theorem splitFirst?_eq_none {s : Stream τ} (h : s.remaining = []) : s.splitFirst? = none := by
  simp [splitFirst?, first?_eq_head?, h]

theorem splitFirst?_eq_some {s : Stream τ} {token : τ} {rest : List τ}
    (h : s.remaining = token :: rest) : s.splitFirst? = some (token, s.advance 1) := by
  simp [splitFirst?, first?_eq_head?, h, advance]

theorem length_eq_of_remaining {s : Stream τ} {tokens : List τ} (h : s.remaining = tokens) :
    s.length = tokens.length := by
  rw [← length_remaining, h]

end Stream
end Backtrack
