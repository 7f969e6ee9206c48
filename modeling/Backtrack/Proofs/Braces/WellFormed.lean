import Backtrack.Braces.Form
import Backtrack.Proofs.Braces.Scan

/-!
Forms whose tokens are what they claim to be. The tokens of well-formed forms are balanced, and no
other forms have the same ones.
-/
namespace Backtrack.Braces
namespace Form

@[simp] theorem tokens_nil : tokens [] = [] := by simp [tokens]

@[simp] theorem tokens_char (t : Located) (forms : List Form) :
    tokens (.char t :: forms) = t :: tokens forms := by
  simp [tokens,Mark.token]

@[simp] theorem tokens_block (opening closing : Located) (inner forms : List Form) :
    tokens (.block opening inner closing :: forms) =
      opening :: (tokens inner ++ closing :: tokens forms) := by
  simp [tokens,Mark.token]

lemma tokens_singleton_pos (f : Form) : 0 < (tokens [f]).length := by
  cases f <;> simp

lemma tokens_cons (f : Form) (forms : List Form) :
    tokens (f :: forms) = tokens [f] ++ tokens forms := by
  cases f <;> simp

/-- Induction on lists of forms, through the blocks as well as along the list. -/
theorem list_induction {motive : List Form → Prop} (nil : motive [])
    (char : ∀ t forms, motive forms → motive (.char t :: forms))
    (block : ∀ opening inner closing forms, motive inner → motive forms →
      motive (.block opening inner closing :: forms)) : ∀ forms, motive forms
  | [] => nil
  | .char t :: forms => char t forms (list_induction nil char block forms)
  | .block opening inner closing :: forms =>
    block opening inner closing forms (list_induction nil char block inner)
      (list_induction nil char block forms)

/-- No character is a brace, and every block stands between an opening and a closing one. -/
inductive WellFormed : List Form → Prop
  | nil : WellFormed []
  | char {t : Located} {forms : List Form} (opens : ¬ t.Opens) (closes : ¬ t.Closes)
      (rest : WellFormed forms) : WellFormed (.char t :: forms)
  | block {opening closing : Located} {inner forms : List Form} (opens : opening.Opens)
      (closes : closing.Closes) (inside : WellFormed inner) (rest : WellFormed forms) :
      WellFormed (.block opening inner closing :: forms)

/-- A brace is needed to go on: nothing is left, or a closing brace comes next. -/
def Ended (ts : List Located) : Prop := ∀ t ∈ ts.head?, t.Closes

lemma ended_nil : Ended [] := by simp [Ended]

lemma ended_cons {t : Located} (h : t.Closes) (ts : List Located) : Ended (t :: ts) := by
  intro u hu
  obtain rfl : t = u := by simpa using hu
  exact h

lemma Ended.head {t : Located} {ts : List Located} (h : Ended (t :: ts)) : t.Closes := h t rfl

namespace WellFormed

variable {forms others : List Form} {opened rest left : List Located}

theorem cons {f : Form} (hf : WellFormed [f]) (h : WellFormed forms) :
    WellFormed (f :: forms) := by
  cases hf with
  | char ho hc _ => exact .char ho hc h
  | block ho hc hi _ => exact .block ho hc hi h

/-- A scan passes over well-formed forms and forgets them. -/
theorem scan_tokens (h : WellFormed forms) (opened rest : List Located) :
    scan opened (tokens forms ++ rest) = scan opened rest := by
  induction h generalizing opened rest with
  | nil => simp
  | char ho hc _ ih =>
    rw [tokens_char,List.cons_append,scan_plain ho hc]
    exact ih opened rest
  | @block opening closing inner forms ho hc _ _ ihInner ih =>
    have hsplit : tokens (.block opening inner closing :: forms) ++ rest =
        opening :: (tokens inner ++ closing :: (tokens forms ++ rest)) := by simp
    rw [hsplit,scan_opens ho,ihInner,scan_closes_cons hc]
    exact ih opened rest

/-- The tokens of well-formed forms show where the forms end and which ones they are. -/
theorem tokens_append_inj (h : WellFormed forms) (ho : WellFormed others) (hr : Ended rest)
    (hl : Ended left) (heq : tokens forms ++ rest = tokens others ++ left) :
    forms = others ∧ rest = left := by
  induction h generalizing others rest left with
  | nil =>
    cases ho with
    | nil => exact ⟨rfl,List.append_cancel_left heq⟩
    | char _ hc _ =>
      rw [tokens_nil,List.nil_append,tokens_char,List.cons_append] at heq
      subst heq
      exact absurd hr.head hc
    | block hop _ _ _ =>
      rw [tokens_nil,List.nil_append,tokens_block,List.cons_append] at heq
      subst heq
      exact absurd hr.head hop.not_closes
  | char hop hcl _ ih =>
    cases ho with
    | nil =>
      rw [tokens_nil,List.nil_append,tokens_char,List.cons_append] at heq
      subst heq
      exact absurd hl.head hcl
    | char _ _ hrest =>
      simp only [tokens_char,List.cons_append,List.cons.injEq] at heq
      obtain ⟨rfl,heq⟩ := heq
      obtain ⟨rfl,rfl⟩ := ih hrest hr hl heq
      exact ⟨rfl,rfl⟩
    | block hop' _ _ _ =>
      simp only [tokens_char,tokens_block,List.cons_append,List.cons.injEq] at heq
      obtain ⟨rfl,-⟩ := heq
      exact absurd hop' hop
  | block hop hcl _ _ ihInner ih =>
    cases ho with
    | nil =>
      rw [tokens_nil,List.nil_append,tokens_block,List.cons_append] at heq
      subst heq
      exact absurd hl.head hop.not_closes
    | char hop' _ _ =>
      simp only [tokens_char,tokens_block,List.cons_append,List.cons.injEq] at heq
      obtain ⟨rfl,-⟩ := heq
      exact absurd hop hop'
    | block _ hcl' hinner hrest =>
      simp only [tokens_block,List.cons_append,List.append_assoc,List.cons.injEq] at heq
      obtain ⟨rfl,heq⟩ := heq
      -- both insides end at their closing braces, so the same braces close them
      obtain ⟨rfl,hafter⟩ := ihInner hinner (ended_cons hcl _) (ended_cons hcl' _) heq
      obtain ⟨rfl,hrests⟩ := List.cons.inj hafter
      obtain ⟨rfl,rfl⟩ := ih hrest hr hl hrests
      exact ⟨rfl,rfl⟩

end WellFormed
end Form
end Backtrack.Braces
