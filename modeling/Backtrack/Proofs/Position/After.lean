import Backtrack.Position
import Mathlib.Data.List.DropRight
import Mathlib.Tactic.Common

/-!
Where a text ends. The place after some characters counts their newlines, and the characters after
the last one. `bump_after` says that places are moved on one character at a time, and `after_append`
that they are moved on a whole text at a time.
-/
namespace Backtrack.Position

/-- The place after the characters `cs` from the beginning of a text: a line for every newline, and
in that line a column for every character after the last newline. -/
def after (cs : List Char) : Position :=
  ⟨1 + cs.count '\n',1 + (cs.rtakeWhile (· ≠ '\n')).length⟩

/-- The place `p` of a text, where the text begins at `origin`. Only its first line goes on with the
columns of `origin`. -/
def moved (origin p : Position) : Position :=
  if p.line = 1 then ⟨origin.line,origin.column + p.column - 1⟩
  else ⟨origin.line + p.line - 1,p.column⟩

/-- Both counters are below their limit. -/
def Fits (p : Position) : Prop := p.line < limit ∧ p.column < limit

/-- Every place on the way over `cs` fits, the last one included. -/
def Counted (cs : List Char) : Prop := ∀ front, front <+: cs → (after front).Fits

variable {p q origin : Position} {c : Char}

@[simp] theorem after_nil : after [] = start := by simp [after,start]

lemma after_concat_newline (cs : List Char) : after (cs ++ ['\n']) = ⟨(after cs).line + 1,1⟩ := by
  simp [after,Nat.add_assoc]

lemma after_concat_other (cs : List Char) (h : c ≠ '\n') :
    after (cs ++ [c]) = ⟨(after cs).line,(after cs).column + 1⟩ := by
  simp [after,h,Nat.add_assoc]

lemma one_le_after (cs : List Char) : 1 ≤ (after cs).line ∧ 1 ≤ (after cs).column := by
  simp [after]

lemma counted_nil : Counted [] := by
  intro front hfront
  rw [List.prefix_nil.mp hfront]
  exact ⟨by decide,by decide⟩

lemma counted_concat {cs : List Char} :
    Counted (cs ++ [c]) ↔ Counted cs ∧ (after (cs ++ [c])).Fits := by
  simp only [Counted,List.prefix_concat_iff,or_imp,forall_and,forall_eq]
  exact And.comm

lemma Counted.of_prefix {front cs : List Char} (h : Counted cs) (hp : front <+: cs) :
    Counted front :=
  fun _ hfront => h _ (hfront.trans hp)

lemma Counted.last {cs : List Char} (h : Counted cs) : (after cs).Fits := h cs List.prefix_rfl

/-- A place moves on to the next one, if that fits. -/
lemma bump_after {cs : List Char} (h : (after cs).Fits) :
    (after cs).bump c = .ok p ↔ (after (cs ++ [c])).Fits ∧ p = after (cs ++ [c]) := by
  have hlimit : 1 < limit := by decide
  obtain ⟨hline,hcolumn⟩ := h
  by_cases hc : c = '\n'
  · subst hc
    rw [after_concat_newline,Fits,bump,if_pos rfl]
    by_cases hnext : (after cs).line + 1 < limit
    · simp [checkedSucc_of_lt hnext,hnext,hlimit,Except.map,eq_comm]
    · simp [checkedSucc_of_ge (Nat.not_lt.mp hnext),hnext,Except.map]
  · rw [after_concat_other cs hc,Fits,bump,if_neg hc]
    by_cases hnext : (after cs).column + 1 < limit
    · simp [checkedSucc_of_lt hnext,hnext,hline,Except.map,eq_comm]
    · simp [checkedSucc_of_ge (Nat.not_lt.mp hnext),hnext,Except.map]

lemma moved_newline (h : 1 ≤ p.line) :
    moved origin ⟨p.line + 1,1⟩ = ⟨(moved origin p).line + 1,1⟩ := by
  have hne : p.line + 1 ≠ 1 := by omega
  rw [moved,moved,if_neg hne]
  split
  · simp [*]
  · have hadd : origin.line + (p.line + 1) - 1 = origin.line + p.line - 1 + 1 := by omega
    simp only [hadd]

lemma moved_other (h : 1 ≤ p.column) : moved origin ⟨p.line,p.column + 1⟩ =
    ⟨(moved origin p).line,(moved origin p).column + 1⟩ := by
  have hadd : origin.column + (p.column + 1) - 1 = origin.column + p.column - 1 + 1 := by omega
  rw [moved,moved]
  split
  · simp only [hadd]
  · rfl

/-- The place after two texts is the place after the second, where that begins after the first. -/
theorem after_append (front back : List Char) :
    after (front ++ back) = (after front).moved (after back) := by
  induction back using List.reverseRecOn with
  | nil => simp [moved,start]
  | append_singleton back c ih =>
    obtain ⟨hline,hcolumn⟩ := one_le_after back
    rw [← List.append_assoc]
    by_cases hc : c = '\n'
    · subst hc
      rw [after_concat_newline,after_concat_newline,ih,moved_newline hline]
    · rw [after_concat_other _ hc,after_concat_other _ hc,ih,moved_other hcolumn]

lemma Fits.of_moved (ho : 1 ≤ origin.line ∧ 1 ≤ origin.column) (h : (origin.moved p).Fits) :
    p.Fits := by
  have hlimit : 1 < limit := by decide
  rw [moved] at h
  split at h
  · simp only [Fits] at h ⊢
    omega
  · simp only [Fits] at h ⊢
    omega

/-- What can be counted behind another text can be counted from the beginning. -/
lemma Counted.of_suffix {front back : List Char} (h : Counted (front ++ back)) : Counted back := by
  intro front' hfront'
  have hlast := h (front ++ front') ((List.prefix_append_right_inj front).mpr hfront')
  rw [after_append] at hlast
  exact hlast.of_moved (one_le_after front)

lemma compare_eq_lt : compare p q = .lt ↔
    p.line < q.line ∨ p.line = q.line ∧ p.column < q.column := by
  show (compare p.line q.line).then (compare p.column q.column) = .lt ↔ _
  rw [Ordering.then_eq_lt,Nat.compare_eq_lt,Nat.compare_eq_eq,Nat.compare_eq_lt]

/-- Every character moves the place on. -/
lemma after_lt_concat (cs : List Char) (c : Char) :
    compare (after cs) (after (cs ++ [c])) = .lt := by
  rw [compare_eq_lt]
  by_cases hc : c = '\n'
  · subst hc
    simp [after_concat_newline]
  · simp [after_concat_other cs hc]

lemma after_lt_append (front : List Char) {back : List Char} (h : back ≠ []) :
    compare (after front) (after (front ++ back)) = .lt := by
  induction back using List.reverseRecOn with
  | nil => exact absurd rfl h
  | append_singleton back c ih =>
    have hlast := after_lt_concat (front ++ back) c
    rw [← List.append_assoc]
    cases back with
    | nil => simpa using hlast
    | cons d back =>
      have hfirst := ih (List.cons_ne_nil d back)
      rw [compare_eq_lt] at hfirst hlast ⊢
      omega

end Backtrack.Position
