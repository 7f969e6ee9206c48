import Backtrack.Braces.Located

/-!
The open braces of a source, innermost first: a persistent stack that knows its depth, and a
history in which every version stays at hand.
-/
namespace Backtrack.Braces

/-- A stack of open braces. -/
structure OpenBraces where
  /-- The open braces, innermost first. -/
  toList : List Located
  depth : Nat
  deriving Repr

namespace OpenBraces

def empty : OpenBraces := ⟨[], 0⟩

instance : Inhabited OpenBraces := ⟨empty⟩

/-- Open one more brace. -/
def push (braces : OpenBraces) (brace : Located) : OpenBraces :=
  ⟨brace :: braces.toList, braces.depth + 1⟩

/-- Close the innermost brace, if one is open. -/
def pop? (braces : OpenBraces) : Option OpenBraces :=
  match braces.toList with
  | [] => none
  | _ :: outer => some ⟨outer, braces.depth - 1⟩

/-- The innermost open brace. -/
def peek? (braces : OpenBraces) : Option Located := braces.toList.head?

def isEmpty (braces : OpenBraces) : Bool := braces.depth == 0

instance : BEq OpenBraces := ⟨fun a b => a.depth == b.depth && a.toList == b.toList⟩

/-- Open braces in order, the last one ending up innermost. -/
def pushAll (braces : OpenBraces) (opened : List Located) : OpenBraces := opened.foldl push braces

def describe (braces : OpenBraces) : String := Text.list (braces.toList.map Located.describe)

/-- Numbered versions of a stack. Number 0 is the empty stack, and no operation changes a version
that is already there. -/
structure History where
  versions : Array OpenBraces := #[empty]

namespace History

def get (h : History) (version : Nat) : OpenBraces := h.versions[version]?.getD empty

/-- Keep a stack under the next number. -/
def keep (h : History) (braces : OpenBraces) : Nat × History :=
  (h.versions.size, ⟨h.versions.push braces⟩)

def push (h : History) (version : Nat) (brace : Located) : Nat × History :=
  h.keep ((h.get version).push brace)

def pushAll (h : History) (version : Nat) (opened : List Located) : Nat × History :=
  h.keep ((h.get version).pushAll opened)

def pop? (h : History) (version : Nat) : Option (Nat × History) :=
  (h.get version).pop?.map h.keep

end History

/-- Opening braces at the first `n` columns of line 1. -/
def firstLine (n : Nat) : List Located :=
  (List.range n).map fun k => ⟨'\x7b', ⟨1, k + 1⟩⟩

end OpenBraces
end Backtrack.Braces
