/-!
Structured text. A record is written on one line, or with one field a line and four spaces a
level.
-/
namespace Backtrack.Text

/-- A text with the structure of nested records. -/
inductive Tree
  | leaf (text : String)
  | record (name : String) (fields : List (String × Tree))

/-- Four spaces for each level. -/
def indent (level : Nat) : String := String.ofList (List.replicate (4 * level) ' ')

/-- A list on one line. -/
def list (items : List String) : String := "[" ++ ", ".intercalate items ++ "]"

namespace Tree

/-- All on one line. -/
def compact : Tree → String
  | leaf text => text
  | record name fields => name ++ " \x7b " ++ ", ".intercalate (labelled fields) ++ " \x7d"
where
  labelled : List (String × Tree) → List String
    | [] => []
    | (label, field) :: rest => (label ++ ": " ++ field.compact) :: labelled rest

/-- One field a line. The first line is not indented: it continues the caller's line, which
stands at `level`. -/
def indented (level : Nat) : Tree → String
  | leaf text => text
  | record name fields =>
    name ++ " \x7b\n" ++ String.join (lines (level + 1) fields) ++ indent level ++ "\x7d"
where
  lines (level : Nat) : List (String × Tree) → List String
    | [] => []
    | (label, field) :: rest =>
      (indent level ++ label ++ ": " ++ field.indented level ++ ",\n") :: lines level rest

end Tree
end Backtrack.Text
