import Backtrack.Proofs.Fault
import Backtrack.Proofs.Position.After
import Mathlib.Algebra.Group.Nat.Defs

/-!
Where places run out. Nothing but an overflow keeps a place from moving on, and the way over a text
comes to the place after it if there are places for all of it. `counted_iff` says that there are
such places exactly if no line is too long and there are not too many lines.
-/
namespace Backtrack

namespace Position

variable {p : Position} {c : Char} {cs : List Char} {reason : Fault}

lemma bump_error (h : p.bump c = .error reason) : reason = .overflow := by
  rw [bump] at h
  split at h
  all_goals exact checkedSucc_error (eq_error_of_map h)

lemma foldlM_bump_error (h : cs.foldlM bump p = .error reason) : reason = .overflow := by
  induction cs generalizing p with
  | nil => cases h
  | cons c cs ih =>
    rw [List.foldlM_cons] at h
    cases hnext : p.bump c with
    | ok q =>
      rw [hnext] at h
      exact ih h
    | error e =>
      rw [hnext] at h
      cases h
      exact bump_error hnext

/-- The way over a text comes to the place after it, if there are places for all of it. -/
lemma foldlM_bump_eq_ok_iff : cs.foldlM bump start = .ok p ↔ Counted cs ∧ p = after cs := by
  -- from the end of the text, since its last place alone says whether the last step fits
  induction cs using List.reverseRecOn generalizing p with
  | nil =>
    show Except.ok start = .ok p ↔ _
    simp [counted_nil,eq_comm]
  | append_singleton cs c ih =>
    rw [List.foldlM_append,bind_eq_ok_iff]
    simp only [ih,List.foldlM_cons,List.foldlM_nil,bind_pure]
    constructor
    · rintro ⟨_,⟨hcounted,rfl⟩,hbump⟩
      obtain ⟨hfits,rfl⟩ := (bump_after hcounted.last).mp hbump
      exact ⟨counted_concat.mpr ⟨hcounted,hfits⟩,rfl⟩
    · rintro ⟨hcounted,rfl⟩
      obtain ⟨hfront,hfits⟩ := counted_concat.mp hcounted
      exact ⟨_,⟨hfront,rfl⟩,(bump_after hfront.last).mpr ⟨hfits,rfl⟩⟩

lemma foldlM_bump_eq_error_iff :
    cs.foldlM bump start = .error reason ↔ ¬ Counted cs ∧ reason = .overflow := by
  constructor
  · intro h
    refine ⟨fun hcounted => ?_,foldlM_bump_error h⟩
    rw [foldlM_bump_eq_ok_iff.mpr ⟨hcounted,rfl⟩] at h
    cases h
  · rintro ⟨hnot,rfl⟩
    cases h : cs.foldlM bump start with
    | ok p => exact absurd (foldlM_bump_eq_ok_iff.mp h).1 hnot
    | error e => rw [foldlM_bump_error h]

lemma after_of_notMem {run : List Char} (h : '\n' ∉ run) : after run = ⟨1,1 + run.length⟩ := by
  have hall : run.rtakeWhile (· ≠ '\n') = run := by
    rw [List.rtakeWhile_eq_self_iff]
    intro c hc
    simpa using fun heq : c = '\n' => h (heq ▸ hc)
  rw [after,hall,List.count_eq_zero.mpr h]

/-- A line has so many characters, or a text so many newlines, that no place is left for the next
one. -/
def TooLong (cs : List Char) : Prop :=
  (∃ run, run <:+: cs ∧ '\n' ∉ run ∧ 2 ^ 32 - 1 ≤ run.length) ∨ 2 ^ 32 - 1 ≤ cs.count '\n'

/-- There are places for all of a text exactly if it is not too long. -/
theorem counted_iff : Counted cs ↔ ¬ TooLong cs := by
  have hlimit : limit = 2 ^ 32 := by decide
  constructor
  · rintro hcounted (⟨run,⟨front,back,rfl⟩,hrun,hlong⟩ | hlines)
    · -- the characters of the run stand in one line, wherever that begins
      have hfits := (hcounted _ (List.prefix_append (front ++ run) back)).2
      have hcolumn := (one_le_after front).2
      rw [after_append,after_of_notMem hrun,moved,if_pos rfl] at hfits
      simp only at hfits
      omega
    · have hfits := hcounted.last.1
      simp only [after] at hfits
      omega
  · intro hnot front hfront
    rw [TooLong,not_or] at hnot
    obtain ⟨hruns,hlines⟩ := hnot
    refine ⟨?_,?_⟩
    · have hcount := hfront.sublist.count_le '\n'
      simp only [after]
      omega
    · have hnewline : '\n' ∉ front.rtakeWhile (· ≠ '\n') := fun hmem => by
        simpa using List.mem_rtakeWhile_imp hmem
      have hwithin := (List.rtakeWhile_suffix (· ≠ '\n') front).isInfix.trans hfront.isInfix
      have hshort : ¬ 2 ^ 32 - 1 ≤ (front.rtakeWhile (· ≠ '\n')).length :=
        fun hlong => hruns ⟨_,hwithin,hnewline,hlong⟩
      simp only [after]
      omega

end Position
end Backtrack
