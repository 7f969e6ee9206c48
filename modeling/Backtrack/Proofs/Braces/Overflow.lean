import Backtrack.Proofs.Braces.Tokens
import Backtrack.Proofs.Position.Limits

/-!
Sources that cannot be divided. Tokens run out of places exactly where the way over the characters
does, so a source overflows if one of its lines is too long or if it has too many of them. The place
after the last character is one too many already, though no token stands there.
-/
namespace Backtrack.Braces

open Position (TooLong)

variable {source : String} {reason : Fault}

/-- Characters are located as far as there is a way over them. -/
lemma tokenizeFrom_eq_error_iff {tokens : List Located} {p : Position} {cs : List Char} :
    tokenizeFrom tokens p cs = .error reason ↔ cs.foldlM Position.bump p = .error reason := by
  induction cs generalizing tokens p with
  | nil =>
    constructor <;> intro h <;> cases h
  | cons c cs ih =>
    rw [tokenizeFrom,List.foldlM_cons]
    cases p.bump c with
    | ok next => exact ih
    | error e =>
      show Except.error e = .error reason ↔ Except.error e = .error reason
      simp only [Except.error.injEq]

theorem tokenize_eq_error_iff :
    tokenize source = .error reason ↔ TooLong source.toList ∧ reason = .overflow := by
  rw [tokenize,tokenizeFrom_eq_error_iff,Position.foldlM_bump_eq_error_iff,Position.counted_iff,
    not_not]

/-- A source overflows exactly if it has a run of 2 ^ 32 - 1 characters that are no newlines, or as
many newlines, and every other source is divided into its tokens. -/
theorem tokenize_overflows_iff (source : String) :
    ((∃ reason, tokenize source = .error reason ∧
        reason.message = "attempt to add with overflow") ↔ TooLong source.toList) ∧
    ((∃ ts, tokenize source = .ok ts) ↔ ¬ TooLong source.toList) := by
  constructor
  · constructor
    · rintro ⟨reason,h,-⟩
      exact (tokenize_eq_error_iff.mp h).1
    · intro h
      exact ⟨.overflow,tokenize_eq_error_iff.mpr ⟨h,rfl⟩,rfl⟩
  · simp only [tokenize_eq_ok_iff,exists_and_left,exists_eq,and_true]
    exact Position.counted_iff

/-- One line is too long by its last character. -/
theorem tokenize_overflows_iff_of_line :
    (∃ reason, tokenize (.ofList (.replicate (2 ^ 32 - 1) 'a')) = .error reason ∧
      reason.message = "attempt to add with overflow") ∧
    ∃ ts, tokenize (.ofList (.replicate (2 ^ 32 - 2) 'a')) = .ok ts := by
  have hline : ∀ n, TooLong (.replicate n 'a') ↔ 2 ^ 32 - 1 ≤ n := by
    intro n
    have hnewline : '\n' ∉ List.replicate n 'a' := fun h => by
      simpa using List.eq_of_mem_replicate h
    constructor
    · rintro (⟨run,hwithin,-,hlong⟩ | hlines)
      · have hle := hwithin.length_le
        rw [List.length_replicate] at hle
        omega
      · rw [List.count_eq_zero.mpr hnewline] at hlines
        omega
    · intro hlong
      refine .inl ⟨_,List.infix_rfl,hnewline,?_⟩
      rwa [List.length_replicate]
  constructor
  · apply (tokenize_overflows_iff _).1.mpr
    rw [String.toList_ofList,hline]
  · apply (tokenize_overflows_iff _).2.mpr
    rw [String.toList_ofList,hline]
    omega

end Backtrack.Braces
