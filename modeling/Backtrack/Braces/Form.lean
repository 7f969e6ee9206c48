import Backtrack.Braces.Located

/-!
Forms: the tree of a source whose braces match. The marks of a tree are its linear notation, a
tagged token for every character in source order; trees are compared, counted and written through
their marks, so the depth of a tree is bounded by memory only.
-/
namespace Backtrack.Braces

/-- A node of the tree of a source. -/
inductive Form
  /-- A character that is no brace. -/
  | char (token : Located)
  /-- A pair of braces and what stands between them. -/
  | block (opening : Located) (forms : List Form) (closing : Located)

/-- What a token is in the notation of a tree. -/
inductive Mark
  | char (token : Located)
  | opening (token : Located)
  | closing (token : Located)
  deriving DecidableEq, Repr

def Mark.token : Mark → Located
  | char t => t
  | opening t => t
  | closing t => t

namespace Form

/-- Walk over `forms`, then over what is left of the blocks around them: `outer` holds, innermost
first, the closing token of a block and the forms after it. `marks` holds the marks so far, newest
first. -/
def walk (marks : List Mark) : List Form → List (Located × List Form) → List Mark
  | [], [] => marks
  | [], (closing, forms) :: outer => walk (.closing closing :: marks) forms outer
  | .char t :: forms, outer => walk (.char t :: marks) forms outer
  | .block opening inner closing :: forms, outer =>
    walk (.opening opening :: marks) inner ((closing, forms) :: outer)
termination_by forms outer => sizeOf forms + sizeOf outer
decreasing_by
  all_goals simp
  all_goals try omega
  cases opening
  simp
  omega

/-- The linear notation of a list of forms. -/
def marks (forms : List Form) : List Mark := (walk [] forms []).reverse

/-- The tokens of a list of forms in order. -/
def tokens (forms : List Form) : List Located := (marks forms).map Mark.token

/-- Equal trees have equal marks. -/
instance : BEq Form := ⟨fun a b => marks [a] == marks [b]⟩

theorem walk_eq (ms : List Mark) : ∀ (forms : List Form) (outer : List (Located × List Form)),
    walk ms forms outer = walk [] forms outer ++ ms
  | [], [] => by simp [walk]
  | [], (closing, forms) :: outer => by
    rw [walk, walk_eq _ forms outer, walk, walk_eq [.closing closing] forms outer]
    simp
  | .char t :: forms, outer => by
    rw [walk, walk_eq _ forms outer, walk, walk_eq [.char t] forms outer]
    simp
  | .block opening inner closing :: forms, outer => by
    rw [walk, walk_eq _ inner, walk, walk_eq [.opening opening] inner]
    simp
termination_by forms outer => sizeOf forms + sizeOf outer
decreasing_by
  all_goals simp
  all_goals try omega
  all_goals cases opening; simp; omega

theorem walk_close (closing : Located) (forms : List Form) (outer : List (Located × List Form)) :
    walk [] [] ((closing, forms) :: outer) = walk [] forms outer ++ [.closing closing] := by
  rw [walk, walk_eq]

theorem walk_char (t : Located) (forms : List Form) (outer : List (Located × List Form)) :
    walk [] (.char t :: forms) outer = walk [] forms outer ++ [.char t] := by
  rw [walk, walk_eq]

theorem walk_block (opening closing : Located) (inner forms : List Form)
    (outer : List (Located × List Form)) :
    walk [] (.block opening inner closing :: forms) outer =
      walk [] inner ((closing, forms) :: outer) ++ [.opening opening] := by
  rw [walk, walk_eq]

/-- What is left of the blocks around comes after the forms. -/
theorem walk_outer : ∀ (forms : List Form) (outer : List (Located × List Form)),
    walk [] forms outer = walk [] [] outer ++ walk [] forms []
  | [], outer => by simp [walk.eq_1]
  | .char t :: forms, outer => by simp [walk_char, walk_outer forms outer]
  | .block opening inner closing :: forms, outer => by
    rw [walk_block, walk_block, walk_outer inner, walk_outer inner [(closing, forms)], walk_close,
      walk_close, walk_outer forms outer]
    simp

@[simp] theorem marks_nil : marks [] = [] := by simp [marks, walk]

@[simp] theorem marks_char (t : Located) (forms : List Form) :
    marks (.char t :: forms) = .char t :: marks forms := by
  simp [marks, walk_char]

@[simp] theorem marks_block (opening closing : Located) (inner forms : List Form) :
    marks (.block opening inner closing :: forms) =
      .opening opening :: (marks inner ++ .closing closing :: marks forms) := by
  rw [marks, walk_block, walk_outer, walk_close]
  simp [marks]

end Form
end Backtrack.Braces
