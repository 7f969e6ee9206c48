import Backtrack.Position
import Backtrack.Text.Quoted

/-!
Characters with their place in a source, and the division of a source into them.
-/
namespace Backtrack.Braces

/-- A character and where it stands. -/
structure Located where
  char : Char
  position : Position
  deriving DecidableEq, Repr

namespace Located

/-- The same character, wherever it stands. -/
def sameChar (a b : Located) : Bool := a.char == b.char

def text (t : Located) : String := Text.quotedChar t.char ++ " at " ++ t.position.text

def tree (t : Located) : Text.Tree :=
  .record "Located" [("ch", .leaf (Text.quotedChar t.char)), ("position", t.position.tree)]

def describe (t : Located) : String := t.tree.compact

/-- The line that lists a token: its place and the quoted character. -/
def listing (t : Located) : String := t.position.text ++ "\t" ++ Text.quotedChar t.char

end Located

/-- Locate characters from a place on; `tokens` holds those before, newest first. The place after
the last character has to exist too. -/
def tokenizeFrom (tokens : List Located) (p : Position) : List Char → Except Fault (List Located)
  | [] => .ok tokens.reverse
  | c :: cs =>
    match p.bump c with
    | .ok next => tokenizeFrom (⟨c, p⟩ :: tokens) next cs
    | .error reason => .error reason

/-- The characters of a source, from line 1 and column 1 on. -/
def tokenize (source : String) : Except Fault (List Located) :=
  tokenizeFrom [] .start source.toList

/-- One line for each character of a source. -/
def listTokens (source : String) : Except Fault (List String) :=
  (tokenize source).map (·.map Located.listing)

end Backtrack.Braces
