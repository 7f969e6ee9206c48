import Backtrack.Braces.Summary
import Backtrack.Proofs.Braces.WellFormed
import Mathlib.Order.Nat
import Mathlib.Tactic.Common

/-!
The visit of forms, one form after the other. A visit adds to what was counted before, and at a
greater depth it finds the same, with every block that much deeper. So the summary of forms is put
together from those of their parts, whether or not the forms are well formed.
-/
namespace Backtrack.Braces

/-- The form is a pair of braces, with what stands between them. -/
def Form.isBlock : Form → Bool
  | .char _ => false
  | .block .. => true

namespace Summary

section
variable (s : Summary) (depth : ℕ) (forms : List Form)

/-- Notes on the marks of forms end at the depth at which they began. -/
lemma foldl_note_depth : ((Form.marks forms).foldl note (s,depth)).2 = depth := by
  induction forms using Form.list_induction generalizing s depth with
  | nil => simp
  | char t forms ih =>
    rw [Form.marks_char,List.foldl_cons]
    exact ih _ depth
  | block opening inner closing forms ihInner ih =>
    rw [Form.marks_block,List.foldl_cons,List.foldl_append,List.foldl_cons]
    simp only [note,ihInner,Nat.add_sub_cancel]
    exact ih _ depth

lemma foldl_note_marks :
    (Form.marks forms).foldl note (s,depth) = (visit s forms depth,depth) :=
  Prod.ext rfl (foldl_note_depth s depth forms)

@[simp] theorem visit_nil : visit s [] depth = s := by simp [visit]

@[simp] theorem visit_char (t : Located) : visit s (.char t :: forms) depth =
    visit { s with chars := s.chars + 1 } forms depth := by
  simp [visit,note]

/-- Count a block that stands at a depth, without its inside. -/
def enter : Summary :=
  { s with blocks := s.blocks + 1,maxDepth := max s.maxDepth (depth + 1) }

/-- The inside of a block is visited one level deeper, and then the forms after it. -/
@[simp] theorem visit_block (opening closing : Located) (inner : List Form) :
    visit s (.block opening inner closing :: forms) depth =
      visit (visit (s.enter depth) inner (depth + 1)) forms depth := by
  rw [visit,Form.marks_block,List.foldl_cons,List.foldl_append,List.foldl_cons]
  simp only [note,foldl_note_marks,Nat.add_sub_cancel,enter]

lemma visit_append (others : List Form) :
    visit s (forms ++ others) depth = visit (visit s forms depth) others depth := by
  induction forms using Form.list_induction generalizing s with
  | nil => simp
  | char t forms ih => rw [List.cons_append,visit_char,visit_char,ih]
  | block opening inner closing forms _ ih =>
    rw [List.cons_append,visit_block,visit_block,ih]

end

/-- The counts of forms and of further forms behind them. -/
def join (s t : Summary) : Summary :=
  ⟨s.chars + t.chars,s.blocks + t.blocks,max s.maxDepth t.maxDepth⟩

/-- The counts of the same forms `depth` levels deeper. Without a block there is nothing to lie
deeper. -/
def lower (s : Summary) (depth : ℕ) : Summary :=
  { s with maxDepth := if s.maxDepth = 0 then 0 else depth + s.maxDepth }

@[simp] theorem join_empty (s : Summary) : s.join {} = s := by simp [join]

lemma enter_join (s t : Summary) (depth : ℕ) :
    (s.join t).enter depth = s.join (t.enter depth) := by
  simp only [enter,join,Nat.add_assoc,max_assoc]

lemma enter_lower (s : Summary) (d depth : ℕ) :
    (s.lower d).enter (d + depth) = (s.enter depth).lower d := by
  have hblock : (s.enter depth).maxDepth ≠ 0 := by
    simp only [enter]
    omega
  rw [lower,lower,if_neg hblock]
  simp only [enter,mk.injEq,true_and]
  split <;> omega

/-- What was counted before is left as it was, and the visit adds to it. -/
lemma visit_join (s t : Summary) (forms : List Form) (depth : ℕ) :
    visit (s.join t) forms depth = s.join (visit t forms depth) := by
  induction forms using Form.list_induction generalizing t depth with
  | nil => simp
  | char c forms ih =>
    rw [visit_char,visit_char]
    exact ih { t with chars := t.chars + 1 } depth
  | block opening inner closing forms ihInner ih =>
    rw [visit_block,visit_block,enter_join,ihInner,ih]

/-- A visit `d` levels deeper counts the same forms `d` levels deeper. -/
lemma visit_lower (s : Summary) (forms : List Form) (d depth : ℕ) :
    visit (s.lower d) forms (d + depth) = (visit s forms depth).lower d := by
  induction forms using Form.list_induction generalizing s depth with
  | nil => simp
  | char c forms ih =>
    rw [visit_char,visit_char]
    exact ih { s with chars := s.chars + 1 } depth
  | block opening inner closing forms ihInner ih =>
    rw [visit_block,visit_block,enter_lower,Nat.add_assoc,ihInner,ih]

/-- Any visit is the visit of the same forms on their own, put behind what was counted before. -/
theorem visit_eq_join (s : Summary) (forms : List Form) (depth : ℕ) :
    visit s forms depth = s.join ((of forms).lower depth) :=
  calc visit s forms depth = visit (s.join {}) forms depth := by rw [join_empty]
    _ = s.join (visit (lower {} depth) forms (depth + 0)) := visit_join s {} forms depth
    _ = s.join ((of forms).lower depth) := by rw [visit_lower,of]

theorem of_append (forms others : List Form) :
    of (forms ++ others) = (of forms).join (of others) := by
  rw [of,visit_append,← join_empty (visit {} forms 0),visit_join]
  rfl

theorem of_block (opening closing : Located) (inner : List Form) :
    of [.block opening inner closing] =
      { of inner with blocks := (of inner).blocks + 1,maxDepth := (of inner).maxDepth + 1 } := by
  rw [of,visit_block,visit_nil,visit_eq_join]
  simp only [enter,join,lower,mk.injEq]
  refine ⟨Nat.zero_add _,by omega,?_⟩
  split <;> omega

lemma of_cons (form : Form) (forms : List Form) :
    of (form :: forms) = (of [form]).join (of forms) :=
  of_append [form] forms

lemma of_char (t : Located) : of [.char t] = ⟨1,0,0⟩ := by
  rw [of,visit_char,visit_nil]

/-- Forms reach no depth exactly if none of them is a block. -/
lemma maxDepth_of_eq_zero_iff {forms : List Form} :
    (of forms).maxDepth = 0 ↔ forms.any Form.isBlock = false := by
  induction forms with
  | nil => simp [of]
  | cons form forms ih =>
    rw [of_cons,List.any_cons,Bool.or_eq_false_iff,← ih]
    cases form with
    | char c => simp [join,of_char,Form.isBlock]
    | block opening inner closing => simp [join,of_block,Form.isBlock]

/-- The summary of forms and further forms has the sums of the characters and of the blocks, and the
greater of the depths. A block has one block more than its forms, and is one level deeper. A visit
from any depth on adds the characters and the blocks of the forms to what was counted before, and if
there is a block among them, raises the depth to where they reach from there. -/
theorem visit_composes (s : Summary) (depth : ℕ) (forms others : List Form)
    (opening closing : Located) :
    of (forms ++ others) =
      ⟨(of forms).chars + (of others).chars,(of forms).blocks + (of others).blocks,
        max (of forms).maxDepth (of others).maxDepth⟩ ∧
    of [.block opening forms closing] =
      ⟨(of forms).chars,(of forms).blocks + 1,(of forms).maxDepth + 1⟩ ∧
    visit s forms depth =
      ⟨s.chars + (of forms).chars,s.blocks + (of forms).blocks,
        if forms.any Form.isBlock then max s.maxDepth (depth + (of forms).maxDepth)
        else s.maxDepth⟩ := by
  refine ⟨of_append forms others,of_block opening closing forms,?_⟩
  rw [visit_eq_join]
  simp only [join,lower,mk.injEq,true_and,maxDepth_of_eq_zero_iff]
  cases forms.any Form.isBlock with
  | false => simp
  | true => simp

end Summary
end Backtrack.Braces
