import Backtrack.Braces.Form

/-!
The structure of forms as text, on one line or with one field a line. Both are written mark by
mark, with the text so far and what the next mark has to know.
-/
namespace Backtrack.Braces.Form

open Text (indent)

/-- Text on one line so far, and whether the current list is still empty. -/
structure Line where
  text : String
  fresh : Bool

namespace Line

/-- Begin a member of the current list. -/
def member (line : Line) (text : String) (fresh : Bool) : Line :=
  ⟨line.text ++ (if line.fresh then "" else ", ") ++ text, fresh⟩

def add (line : Line) : Mark → Line
  | .char t => line.member ("Char(" ++ t.describe ++ ")") false
  | .opening t => line.member ("Block(Block \x7b open: " ++ t.describe ++ ", forms: [") true
  | .closing t => ⟨line.text ++ "], close: " ++ t.describe ++ " \x7d)", false⟩

end Line

/-- The structure of forms on one line. -/
def describe (forms : List Form) : String :=
  ((marks forms).foldl Line.add ⟨"[", true⟩).text ++ "]"

/-- Text on several lines so far, the level of the current list's bracket, and whether that list
is still empty. -/
structure Page where
  text : String
  level : Nat
  fresh : Bool

namespace Page

/-- Begin a member of the current list on a line of its own. -/
def member (page : Page) : String :=
  page.text ++ (if page.fresh then "\n" else "") ++ indent (page.level + 1)

/-- End the current list: an empty one ends where it began. -/
def close (page : Page) : String :=
  page.text ++ (if page.fresh then "" else indent page.level) ++ "]"

/-- A labelled token on a line of its own. -/
def field (level : Nat) (label : String) (t : Located) : String :=
  indent level ++ label ++ t.tree.indented level ++ ",\n"

def add (page : Page) : Mark → Page
  | .char t =>
    ⟨page.member ++ "Char(\n" ++ field (page.level + 2) "" t ++ indent (page.level + 1) ++ "),\n",
      page.level, false⟩
  | .opening t =>
    ⟨page.member ++ "Block(\n" ++ indent (page.level + 2) ++ "Block \x7b\n" ++
        field (page.level + 3) "open: " t ++ indent (page.level + 3) ++ "forms: [",
      page.level + 3, true⟩
  | .closing t =>
    ⟨page.close ++ ",\n" ++ field page.level "close: " t ++ indent (page.level - 1) ++ "\x7d,\n" ++
        indent (page.level - 2) ++ "),\n",
      page.level - 3, false⟩

end Page

/-- The structure of forms with one field a line. -/
def layout (forms : List Form) : String := ((marks forms).foldl Page.add ⟨"[", 0, true⟩).close

end Backtrack.Braces.Form
