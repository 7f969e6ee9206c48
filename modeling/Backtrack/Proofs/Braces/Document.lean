import Backtrack.Braces.Grammar.Rule
import Backtrack.Proofs.Braces.Replies

/-!
Runs of forms and of documents. Main statements: the stack of open braces is restored, and the
forms of a document stand for the tokens that it consumed.
-/
namespace Backtrack.Braces.Grammar

open Form (WellFormed Ended)

variable {s : OpenBraces} {i : Stream Located} {after : List Located}

/-- A form on its own. -/
def wholeForm : Terminating Form where
  parser := form
  halts s i := (Action.run_leaves (form_leaves .empty s i)).halts

/-- A run reports its beginning, then what its parser does, then its end, and replies as its parser
does. -/
theorem Terminating.run_of_tells {α : Type} (p : Terminating α)
    {Q : List Event → Reply OpenBraces Located Mismatch α → Prop}
    (h : (p.parser.action .empty s i).Tells Grammar.none Q) :
    ∃ events reply, p.run s i = ⟨.ok reply,.run i.length ::
      (events ++ [.runFinished reply.verdict (Action.consumed i reply)])⟩ ∧ Q events reply := by
  obtain ⟨events,reply,hy,hq⟩ := h
  have hrun : (p.parser.run s i).Yields Grammar.none _ (.ok reply) :=
    .emit (.run i.length) (hy.bind (.emit _ (.done reply)))
  exact ⟨events,reply,hrun.finish_eq _,hq⟩

lemma form_run (s : OpenBraces) (i : Stream Located) :
    ∃ reply, (wholeForm.run s i).result = .ok reply ∧ FormReply s i reply := by
  obtain ⟨events,reply,hrun,hr⟩ := wholeForm.run_of_tells (form_tells .empty s i)
  exact ⟨reply,by rw [hrun],hr.replies⟩

/-- What a document reports and replies. -/
lemma document_report (s : OpenBraces) (i : Stream Located) :
    ∃ events reply, wholeDocument.run s i = ⟨.ok reply,.run i.length ::
      (events ++ [.runFinished reply.verdict (Action.consumed i reply)])⟩ ∧
        FormsTold s i [] events reply :=
  wholeDocument.run_of_tells (document_tells .empty s i)

lemma document_run (s : OpenBraces) (i : Stream Located) :
    ∃ reply, (wholeDocument.run s i).result = .ok reply ∧ FormsReply s i [] reply := by
  obtain ⟨events,reply,hrun,hr⟩ := document_report s i
  exact ⟨reply,by rw [hrun],hr.replies⟩

/-- A scan gets as far as the forms that are read, and no further. -/
lemma scan_of_read {forms : List Form} {c : Located} (h : i.remaining = Form.tokens forms ++ after)
    (hf : WellFormed forms) (ha : Ended after) (hc : after.head? = some c) :
    scan [] i.remaining = .stopped c after.tail := by
  obtain ⟨rest,rfl⟩ := List.head?_eq_some_iff.mp hc
  rw [h,hf.scan_tokens,scan_closes_nil ha.head,List.tail_cons]

/-- Forms and documents leave the stack as it was, consume what they read, and never fault. A
document never fails; it ends at the end of its input, or at the first closing brace without a
partner there, which then closes a brace that was open before. -/
theorem document_restores_stack (s : OpenBraces) (i : Stream Located) :
    (∃ reply, (wholeForm.run s i).result = .ok reply ∧
      ∀ r, reply = .success r → r.state = s ∧ r.rest.length < i.length) ∧
    ∃ reply, (wholeDocument.run s i).result = .ok reply ∧ reply ≠ .failure ∧
      (∀ r, reply = .success r → r.state = s ∧
        (r.rest.remaining = [] ∨
          s.toList ≠ [] ∧ FirstUnmatched i.remaining r.rest.remaining)) ∧
      (s.toList ≠ [] → ∀ brace, reply ≠ .error (.unmatchedClose brace)) := by
  constructor
  · obtain ⟨reply,hrun,hr⟩ := form_run s i
    refine ⟨reply,hrun,?_⟩
    rintro r rfl
    cases hr with
    | @read f after h hf =>
      have hpos := Form.tokens_singleton_pos f
      refine ⟨rfl,?_⟩
      rw [Stream.length_eq_of_remaining (Stream.remaining_advance_of_append h),
        Stream.length_eq_of_remaining h,List.length_append]
      omega
  · obtain ⟨reply,hrun,hr⟩ := document_run s i
    refine ⟨reply,hrun,?_,?_,?_⟩
    · rintro rfl
      cases hr
    · rintro r rfl
      cases hr with
      | @read forms after h hf ha hs =>
        refine ⟨rfl,?_⟩
        rw [Stream.remaining_advance_of_append h]
        cases hc : after with
        | nil => exact .inl rfl
        | cons c rest =>
          subst hc
          refine .inr ⟨fun he => by simpa using hs he,?_⟩
          exact firstUnmatched_of_scan (scan_of_read h hf ha rfl)
    · rintro hs brace rfl
      cases hr with
      | unopened _ he => exact hs he

/-- The forms of a document are well formed and hold exactly the tokens that it consumed, and
every well-formed list of forms is what a document reads from its tokens. -/
theorem document_forms_tokens :
    (∀ s i r, (wholeDocument.run s i).result = .ok (.success r) →
      WellFormed r.value ∧ i.remaining = Form.tokens r.value ++ r.rest.remaining ∧
        r.rest = i.advance (Form.tokens r.value).length) ∧
    ∀ (s : OpenBraces) (i : Stream Located) (forms : List Form) (after : List Located),
      WellFormed forms → i.remaining = Form.tokens forms ++ after →
      (after = [] ∨ s.toList ≠ [] ∧ ∃ t ts, after = t :: ts ∧ t.Closes) →
      ∃ r, (wholeDocument.run s i).result = .ok (.success r) ∧ r.state = s ∧
        r.rest = i.advance (Form.tokens forms).length ∧ r.rest.remaining = after ∧
        r.value = forms := by
  constructor
  · intro s i r hr
    obtain ⟨reply,hrun,hreply⟩ := document_run s i
    obtain rfl : reply = .success r := Except.ok.inj (hrun.symm.trans hr)
    cases hreply with
    | @read forms after h hf ha hs =>
      refine ⟨hf,?_,rfl⟩
      rw [Stream.remaining_advance_of_append h]
      exact h
  · intro s i forms after hf h hafter
    have ha : Ended after := by
      rcases hafter with rfl | ⟨-,t,ts,rfl,ht⟩
      · exact Form.ended_nil
      · exact Form.ended_cons ht ts
    have hscan : scan [] i.remaining = scan [] after := by rw [h,hf.scan_tokens]
    obtain ⟨reply,hrun,hreply⟩ := document_run s i
    cases hreply with
    | unopened hstop hs =>
      rcases hafter with rfl | ⟨hne,-⟩
      · rw [hscan] at hstop
        cases hstop
      · exact absurd hs hne
    | unclosed hopen =>
      rw [hscan] at hopen
      rcases hafter with rfl | ⟨-,t,ts,rfl,ht⟩
      · cases hopen
      · rw [scan_closes_nil ht] at hopen
        cases hopen
    | @read others rest hread hothers hrest _ =>
      obtain ⟨rfl,rfl⟩ := hf.tokens_append_inj hothers ha hrest (h.symm.trans hread)
      exact ⟨_,hrun,rfl,rfl,Stream.remaining_advance_of_append h,rfl⟩

theorem document_forms_tokens_nested :
    let forms := [Form.char ⟨'a',⟨1,2⟩⟩,.block ⟨'\x7b',⟨1,3⟩⟩ [.char ⟨'b',⟨1,4⟩⟩] ⟨'\x7d',⟨1,5⟩⟩]
    let after := [Located.mk '\x7d' ⟨1,6⟩]
    let i := Stream.ofList 0 (Form.tokens forms ++ after)
    WellFormed forms ∧ i.remaining = Form.tokens forms ++ after ∧
      ∃ r, (wholeDocument.run (.push .empty ⟨'\x7b',⟨1,1⟩⟩) i).result = .ok (.success r) ∧
        r.state = .push .empty ⟨'\x7b',⟨1,1⟩⟩ ∧ r.rest = i.advance (Form.tokens forms).length ∧
        r.rest.remaining = after ∧ r.value = forms := by
  intro forms after i
  have hf : WellFormed forms := .char (by decide) (by decide)
    (.block (by decide) (by decide) (.char (by decide) (by decide) .nil) .nil)
  have hi : i.remaining = Form.tokens forms ++ after := Stream.remaining_ofList 0 _
  refine ⟨hf,hi,document_forms_tokens.2 _ i forms after hf hi (.inr ⟨?_,_,_,rfl,by decide⟩)⟩
  simp [OpenBraces.push]

end Backtrack.Braces.Grammar
