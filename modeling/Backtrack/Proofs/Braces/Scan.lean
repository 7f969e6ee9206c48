import Backtrack.Braces.Located
import Mathlib.Tactic.Common

/-!
One pass over tokens with the stack of the braces that are open. The scan stops at the first
closing brace without a partner, which `firstUnmatched_of_scan` describes by counting braces.
-/
namespace Backtrack.Braces

namespace Located

abbrev Opens (t : Located) : Prop := t.char = '\x7b'
abbrev Closes (t : Located) : Prop := t.char = '\x7d'

lemma Opens.not_closes {t : Located} (h : t.Opens) : ¬ t.Closes := by
  intro hc
  rw [Opens] at h
  rw [Closes,h] at hc
  exact absurd hc (by decide)

end Located

/-- How a scan ends. -/
inductive Scan
  /-- All tokens are read, and these braces are still open, the innermost first. -/
  | finished (opened : List Located)
  /-- Nothing is open at this closing brace, and these tokens come after it. -/
  | stopped (brace : Located) (after : List Located)
  deriving DecidableEq, Repr

/-- Push every opening brace, pop at every closing one, and skip every other token. -/
def scan (opened : List Located) : List Located → Scan
  | [] => .finished opened
  | t :: ts =>
    if t.Opens then scan (t :: opened) ts
    else if t.Closes then
      match opened with
      | [] => .stopped t ts
      | _ :: outer => scan outer ts
    else scan opened ts

variable {opened outer ts : List Located} {t brace : Located}

@[simp] theorem scan_nil (opened : List Located) : scan opened [] = .finished opened := rfl

theorem scan_opens (h : t.Opens) : scan opened (t :: ts) = scan (t :: opened) ts := by
  simp [scan,h]

theorem scan_closes_nil (h : t.Closes) : scan [] (t :: ts) = .stopped t ts := by
  have ho : ¬ t.Opens := fun ho => ho.not_closes h
  simp [scan,ho,h]

theorem scan_closes_cons (h : t.Closes) : scan (brace :: outer) (t :: ts) = scan outer ts := by
  have ho : ¬ t.Opens := fun ho => ho.not_closes h
  simp [scan,ho,h]

theorem scan_plain (ho : ¬ t.Opens) (hc : ¬ t.Closes) :
    scan opened (t :: ts) = scan opened ts := by
  simp [scan,ho,hc]

/-- A scan never looks below the braces that it began with, unless it would stop there. -/
theorem scan_append (opened outer ts : List Located) :
    scan (opened ++ outer) ts =
      match scan opened ts with
      | .finished left => .finished (left ++ outer)
      | .stopped brace after => scan outer (brace :: after) := by
  induction ts generalizing opened with
  | nil => rfl
  | cons t ts ih =>
    by_cases ho : t.Opens
    · rw [scan_opens ho,scan_opens ho,← List.cons_append]
      exact ih (t :: opened)
    · by_cases hc : t.Closes
      · cases opened with
        | nil => rw [scan_closes_nil hc,List.nil_append]
        | cons brace inner =>
          rw [List.cons_append,scan_closes_cons hc,scan_closes_cons hc]
          exact ih inner
      · rw [scan_plain ho hc,scan_plain ho hc]
        exact ih opened

/-- A scan goes on behind the tokens that it has read, unless it has stopped among them. -/
theorem scan_append_tokens (opened front back : List Located) :
    scan opened (front ++ back) =
      match scan opened front with
      | .finished left => scan left back
      | .stopped brace after => .stopped brace (after ++ back) := by
  induction front generalizing opened with
  | nil => rfl
  | cons t front ih =>
    rw [List.cons_append]
    by_cases ho : t.Opens
    · rw [scan_opens ho,scan_opens ho]
      exact ih (t :: opened)
    · by_cases hc : t.Closes
      · cases opened with
        | nil => rw [scan_closes_nil hc,scan_closes_nil hc]
        | cons brace outer =>
          rw [scan_closes_cons hc,scan_closes_cons hc]
          exact ih outer
      · rw [scan_plain ho hc,scan_plain ho hc]
        exact ih opened

/-- A scan stops at a closing brace before which everything open has been closed. -/
theorem scan_eq_stopped_iff {after : List Located} : scan opened ts = .stopped brace after ↔
    ∃ front, ts = front ++ brace :: after ∧ brace.Closes ∧ scan opened front = .finished [] := by
  constructor
  · intro h
    induction ts generalizing opened with
    | nil => simp at h
    | cons t ts ih =>
      by_cases ho : t.Opens
      · rw [scan_opens ho] at h
        obtain ⟨front,rfl,hb,hfront⟩ := ih h
        exact ⟨t :: front,rfl,hb,by rw [scan_opens ho,hfront]⟩
      · by_cases hc : t.Closes
        · cases opened with
          | nil =>
            rw [scan_closes_nil hc] at h
            obtain ⟨rfl,rfl⟩ := Scan.stopped.inj h
            exact ⟨[],rfl,hc,rfl⟩
          | cons inner outer =>
            rw [scan_closes_cons hc] at h
            obtain ⟨front,rfl,hb,hfront⟩ := ih h
            exact ⟨t :: front,rfl,hb,by rw [scan_closes_cons hc,hfront]⟩
        · rw [scan_plain ho hc] at h
          obtain ⟨front,rfl,hb,hfront⟩ := ih h
          exact ⟨t :: front,rfl,hb,by rw [scan_plain ho hc,hfront]⟩
  · rintro ⟨front,rfl,hb,hfront⟩
    rw [scan_append_tokens,hfront]
    exact scan_closes_nil hb

/-- The place at which a scan stops. -/
lemma exists_stopped_iff : (∃ after, scan opened ts = .stopped brace after) ↔
    ∃ i, ts[i]? = some brace ∧ brace.Closes ∧ scan opened (ts.take i) = .finished [] := by
  constructor
  · rintro ⟨after,h⟩
    obtain ⟨front,rfl,hb,hfront⟩ := scan_eq_stopped_iff.mp h
    exact ⟨front.length,by simp,hb,by simpa using hfront⟩
  · rintro ⟨i,hi,hb,hfront⟩
    obtain ⟨hlt,rfl⟩ := List.getElem?_eq_some_iff.mp hi
    have hsplit : ts = ts.take i ++ ts[i] :: ts.drop (i + 1) := by
      rw [List.getElem_cons_drop,List.take_append_drop]
    exact ⟨ts.drop (i + 1),scan_eq_stopped_iff.mpr ⟨ts.take i,hsplit,hb,hfront⟩⟩

def opens (ts : List Located) : ℕ := ts.countP fun t => t.Opens
def closes (ts : List Located) : ℕ := ts.countP fun t => t.Closes

lemma opens_cons (t : Located) (ts : List Located) : opens (t :: ts) = opens [t] + opens ts := by
  rw [← List.singleton_append]
  exact List.countP_append

lemma closes_cons (t : Located) (ts : List Located) :
    closes (t :: ts) = closes [t] + closes ts := by
  rw [← List.singleton_append]
  exact List.countP_append

lemma opens_singleton (t : Located) : opens [t] = if t.Opens then 1 else 0 := by
  simp [opens,List.countP_cons]

lemma closes_singleton (t : Located) : closes [t] = if t.Closes then 1 else 0 := by
  simp [closes,List.countP_cons]

/-- Where `m` braces are open before `ts`, no beginning of `ts` closes more than are open. -/
def Covered (m : ℕ) (ts : List Located) : Prop :=
  ∀ front, front <+: ts → closes front ≤ opens front + m

lemma Covered.cons {m n : ℕ} (h : Covered n ts) (ht : closes [t] + n ≤ opens [t] + m) :
    Covered m (t :: ts) := by
  intro front hfront
  cases front with
  | nil => simp [closes]
  | cons u front =>
    obtain ⟨rfl,hp⟩ := List.cons_prefix_cons.mp hfront
    have hle := h front hp
    rw [opens_cons,closes_cons]
    omega

/-- `rest` begins with the first closing brace of `ts` that has no partner in `ts`. -/
def FirstUnmatched (ts rest : List Located) : Prop :=
  ∃ front brace after, ts = front ++ brace :: after ∧ rest = brace :: after ∧ brace.Closes ∧
    Covered 0 front ∧ ¬ Covered 0 (front ++ [brace])

/-- Up to where a scan stops, all braces that it began with are closed, and never more. -/
lemma scan_stopped {after : List Located} (h : scan opened ts = .stopped brace after) :
    ∃ front, ts = front ++ brace :: after ∧ brace.Closes ∧
      closes front = opens front + opened.length ∧ Covered opened.length front := by
  induction ts generalizing opened with
  | nil => simp at h
  | cons t ts ih =>
    by_cases ho : t.Opens
    · have hc := ho.not_closes
      have h₁ : opens [t] = 1 := by rw [opens_singleton,if_pos ho]
      have h₀ : closes [t] = 0 := by rw [closes_singleton,if_neg hc]
      rw [scan_opens ho] at h
      obtain ⟨front,rfl,hb,hcount,hcov⟩ := ih h
      rw [List.length_cons] at hcount
      refine ⟨t :: front,rfl,hb,?_,hcov.cons ?_⟩
      · rw [opens_cons,closes_cons]
        omega
      · rw [List.length_cons]
        omega
    · have h₀ : opens [t] = 0 := by rw [opens_singleton,if_neg ho]
      by_cases hc : t.Closes
      · have h₁ : closes [t] = 1 := by rw [closes_singleton,if_pos hc]
        cases opened with
        | nil =>
          rw [scan_closes_nil hc] at h
          obtain ⟨rfl,rfl⟩ := Scan.stopped.inj h
          refine ⟨[],rfl,hc,rfl,?_⟩
          intro front hfront
          rw [List.prefix_nil.mp hfront]
          simp [closes]
        | cons inner outer =>
          rw [scan_closes_cons hc] at h
          obtain ⟨front,rfl,hb,hcount,hcov⟩ := ih h
          refine ⟨t :: front,rfl,hb,?_,hcov.cons ?_⟩
          · rw [opens_cons,closes_cons,List.length_cons]
            omega
          · rw [List.length_cons]
            omega
      · have h₁ : closes [t] = 0 := by rw [closes_singleton,if_neg hc]
        rw [scan_plain ho hc] at h
        obtain ⟨front,rfl,hb,hcount,hcov⟩ := ih h
        refine ⟨t :: front,rfl,hb,?_,hcov.cons (by omega)⟩
        rw [opens_cons,closes_cons]
        omega

/-- A scan from nothing open stops at the first closing brace without a partner. -/
theorem firstUnmatched_of_scan {after : List Located} (h : scan [] ts = .stopped brace after) :
    FirstUnmatched ts (brace :: after) := by
  obtain ⟨front,rfl,hb,hcount,hcov⟩ := scan_stopped h
  refine ⟨front,brace,after,rfl,rfl,hb,hcov,?_⟩
  intro hall
  have hle := hall _ List.prefix_rfl
  have h₀ : opens [brace] = 0 := by rw [opens_singleton,if_neg fun ho => ho.not_closes hb]
  have h₁ : closes [brace] = 1 := by rw [closes_singleton,if_pos hb]
  simp only [opens,closes,List.countP_append,List.length_nil] at *
  omega

end Backtrack.Braces
