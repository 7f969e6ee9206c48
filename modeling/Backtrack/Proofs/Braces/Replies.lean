import Backtrack.Process.Tells
import Backtrack.Proofs.Braces.Events
import Backtrack.Proofs.Braces.Rules

/-!
What forms reply, one and in a sequence, on every stack and every input, and what they report on the
way. A sequence reads the longest well-formed forms at hand, and the scan of its input from nothing
open decides how it ends. Its events are a part of those told in one pass over the input.
-/
namespace Backtrack.Braces.Grammar

open Process Backtrack.Action
open Form (WellFormed Ended)

variable {Γ : List Type}

/-- The replies of a form on the open braces `s` and the input `i`. -/
inductive FormReply (s : OpenBraces) (i : Stream Located) :
    Reply OpenBraces Located Mismatch Form → Prop
  | ended (h : i.remaining = []) : FormReply s i .failure
  | closing {t : Located} {ts : List Located} (h : i.remaining = t :: ts) (ht : t.Closes)
      (hs : s.toList ≠ []) : FormReply s i .failure
  | unopened {t : Located} {ts : List Located} (h : i.remaining = t :: ts) (ht : t.Closes)
      (hs : s.toList = []) : FormReply s i (.error (.unmatchedClose t))
  | unclosed {brace : Located} {outer : List Located}
      (h : scan [] i.remaining = .finished (brace :: outer)) :
      FormReply s i (.error (.unmatchedOpen brace))
  | read {f : Form} {after : List Located} (h : i.remaining = Form.tokens [f] ++ after)
      (hf : WellFormed [f]) : FormReply s i (.success ⟨s,i.advance (Form.tokens [f]).length,f⟩)

/-- The replies of a sequence of forms on the open braces `s` and the input `i`, where the forms
`before` are read already. -/
inductive FormsReply (s : OpenBraces) (i : Stream Located) (before : List Form) :
    Reply OpenBraces Located Mismatch (List Form) → Prop
  | unopened {t : Located} {ts : List Located} (h : scan [] i.remaining = .stopped t ts)
      (hs : s.toList = []) : FormsReply s i before (.error (.unmatchedClose t))
  | unclosed {brace : Located} {outer : List Located}
      (h : scan [] i.remaining = .finished (brace :: outer)) :
      FormsReply s i before (.error (.unmatchedOpen brace))
  | read {forms : List Form} {after : List Located} (h : i.remaining = Form.tokens forms ++ after)
      (hf : WellFormed forms) (ha : Ended after) (hs : s.toList = [] → after = []) :
      FormsReply s i before (.success ⟨s,i.advance (Form.tokens forms).length,before ++ forms⟩)

variable {s : OpenBraces} {i : Stream Located} {f : Form} {before : List Form}
  {after : List Located}

/-- Where no form follows, a sequence ends in place. -/
lemma FormsReply.stop (ha : Ended i.remaining) (hs : s.toList = [] → i.remaining = []) :
    FormsReply s i before (.success ⟨s,i,before⟩) := by
  have hi : i.remaining = Form.tokens [] ++ i.remaining := by simp
  have hread : FormsReply s i before _ := .read hi .nil ha hs
  simpa using hread

/-- What the forms after the first one reply is what all of them reply. -/
lemma FormsReply.cons {reply : Reply OpenBraces Located Mismatch (List Form)}
    (h : i.remaining = Form.tokens [f] ++ after) (hf : WellFormed [f])
    (hr : FormsReply s (i.advance (Form.tokens [f]).length) (before ++ [f]) reply) :
    FormsReply s i before reply := by
  have hrest := i.remaining_advance_of_append h
  have hscan : scan [] i.remaining = scan [] after := by
    rw [h]
    exact hf.scan_tokens [] after
  cases hr with
  | unopened hr hs => exact .unopened (by rw [hscan,← hrest]; exact hr) hs
  | unclosed hr => exact .unclosed (by rw [hscan,← hrest]; exact hr)
  | @read forms rest hr hforms ha hs =>
    have hall : i.remaining = Form.tokens (f :: forms) ++ rest := by
      rw [h,← hrest,hr,Form.tokens_cons f forms,List.append_assoc]
    have hread : FormsReply s i before _ := .read hall (hf.cons hforms) ha hs
    rw [Form.tokens_cons f forms,List.length_append] at hread
    simpa using hread

/-- What is reported after a reply of a form, in a sequence with `count` forms before it. -/
def eventsAfterForm (count : ℕ) (outer : List ℕ) (i : Stream Located) :
    Reply OpenBraces Located Mismatch Form → List Event
  | .success r => eventsFrom (count + 1) outer r.rest.offset r.rest.remaining
  | .failure => .many0Done count i.offset :: eventsBehind outer i.offset i.remaining
  | .error _ => []

/-- What is reported after a reply of a sequence of forms. -/
def eventsAfterForms (outer : List ℕ) :
    Reply OpenBraces Located Mismatch (List Form) → List Event
  | .success r => eventsBehind outer r.rest.offset r.rest.remaining
  | .failure => []
  | .error _ => []

/-- What a form replies on the open braces `s` and the input `i`, and what it reports before that:
the first of the events from `i` on. There is a sequence around exactly if a brace is open. -/
structure FormTold (s : OpenBraces) (i : Stream Located) (events : List Event)
    (reply : Reply OpenBraces Located Mismatch Form) : Prop where
  replies : FormReply s i reply
  reports : ∀ count outer, (outer = [] ↔ s.toList = []) →
    eventsFrom count outer i.offset i.remaining = events ++ eventsAfterForm count outer i reply

/-- What a sequence of forms replies after the forms `before`, and what it reports before that. -/
structure FormsTold (s : OpenBraces) (i : Stream Located) (before : List Form)
    (events : List Event) (reply : Reply OpenBraces Located Mismatch (List Form)) : Prop where
  replies : FormsReply s i before reply
  reports : ∀ outer, (outer = [] ↔ s.toList = []) →
    eventsFrom before.length outer i.offset i.remaining = events ++ eventsAfterForms outer reply

section
variable {events later : List Event}

/-- A sequence ends in place at a form that fails. -/
lemma FormTold.stop (h : FormTold s i events .failure) :
    FormsTold s i before (events ++ [.many0Done before.length i.offset])
      (.success ⟨s,i,before⟩) := by
  refine ⟨?_,fun outer ho => ?_⟩
  · cases h.replies with
    | ended hi => exact .stop (by rw [hi]; exact Form.ended_nil) fun _ => hi
    | closing hi ht hs =>
      exact .stop (by rw [hi]; exact Form.ended_cons ht _) fun hempty => absurd hempty hs
  · rw [h.reports before.length outer ho,List.append_assoc]
    rfl

/-- A sequence goes on behind a form that is read. -/
lemma FormTold.goOn {reply : Reply OpenBraces Located Mismatch (List Form)}
    (hi : i.remaining = Form.tokens [f] ++ after) (hf : WellFormed [f])
    (h : FormTold s i events (.success ⟨s,i.advance (Form.tokens [f]).length,f⟩))
    (hr : FormsTold s (i.advance (Form.tokens [f]).length) (before ++ [f]) later reply) :
    FormsTold s i before (events ++ later) reply := by
  refine ⟨hr.replies.cons hi hf,fun outer ho => ?_⟩
  have hlater := hr.reports outer ho
  rw [List.length_append] at hlater
  rw [h.reports before.length outer ho,List.append_assoc,← hlater]
  rfl

/-- A sequence ends at an error of a form. -/
lemma FormTold.fail {e : Mismatch} (h : FormTold s i events (.error e)) :
    FormsTold s i before events (.error e) := by
  refine ⟨?_,fun outer ho => h.reports before.length outer ho⟩
  cases h.replies with
  | unopened hi ht hs => exact .unopened (by rw [hi]; exact scan_closes_nil ht) hs
  | unclosed hi => exact .unclosed hi

end

/-- A sequence of forms does what its forms do, up to the first one that fails. -/
theorem formsFrom_tells {inner : BraceParser Γ Form} {env : BraceEnv Γ} (values : List Form)
    (s : OpenBraces) (i : Stream Located)
    (h : ∀ s' i', i'.length ≤ i.length →
      (inner.action env s' i').Tells Grammar.none (FormTold s' i')) :
    (many0From (inner.action env) values s i).Tells Grammar.none
      (FormsTold s i values.reverse) := by
  rw [many0From]
  refine (h s i (Nat.le_refl _)).bind fun events reply hr => ?_
  cases reply with
  | failure =>
    have hstop : FormsTold s i values.reverse _ _ := hr.stop
    rw [List.length_reverse] at hstop
    exact .emit (.done hstop)
  | error e =>
    have hfail : FormsTold s i values.reverse (events ++ []) (.error e) := by
      simpa using hr.fail
    exact .done hfail
  | success r =>
    cases hr.replies with
    | @read f after hi hf =>
      have hpos := Form.tokens_singleton_pos f
      have hlen : i.length = (Form.tokens [f]).length + after.length := by
        rw [Stream.length_eq_of_remaining hi,List.length_append]
      have hlt : (i.advance (Form.tokens [f]).length).length < i.length := by
        rw [Stream.length_eq_of_remaining (i.remaining_advance_of_append hi)]
        omega
      simp only [hlt,if_true]
      refine (formsFrom_tells (f :: values) s _ fun s' i' hi' => h s' i' (by omega)).mono ?_
      intro later reply hlater
      rw [List.reverse_cons] at hlater
      exact hr.goOn hi hf hlater
termination_by i.length

/-- What is reported from an opening brace on begins with what the inside of its block reports. For
the inside, the sequence that the block belongs to is the one around. -/
lemma FormsTold.reports_block {t : Located} {ts : List Located} {events : List Event}
    {reply : Reply OpenBraces Located Mismatch (List Form)} (hi : i.remaining = t :: ts)
    (ht : t.Opens) (h : FormsTold (s.push t) (i.advance 1) [] events reply) (count : ℕ)
    (outer : List ℕ) : eventsFrom count outer i.offset i.remaining =
      [.item i.offset,.plusBacktrack i.offset,.item i.offset] ++
        (events ++ eventsAfterForms (count :: outer) reply) := by
  have hrest : (i.advance 1).remaining = ts := by simp [hi]
  have hsome : count :: outer = [] ↔ (s.push t).toList = [] := by simp [OpenBraces.push]
  rw [hi,eventsFrom_opens ht,← h.reports _ hsome,hrest]
  rfl

/-- A block reads what comes before its closing brace, on which its opening brace is open. The form
that it is has tried to read a character before. -/
theorem block_tells {inner : BraceParser Γ Form} {env : BraceEnv Γ} {t : Located}
    {ts : List Located} (hi : i.remaining = t :: ts) (ht : t.Opens)
    (h : ∀ s' i', i'.length < i.length →
      (inner.action env s' i').Tells Grammar.none (FormTold s' i')) :
    ((block inner).action env s i).Tells Grammar.none fun events reply =>
      FormTold s i ([.item i.offset,.plusBacktrack i.offset] ++ events) reply := by
  have hrest : (i.advance 1).remaining = ts := by simp [hi]
  have hlen : (i.advance 1).length < i.length := by
    rw [Stream.length_eq_of_remaining hi,Stream.length_eq_of_remaining hrest]
    simp
  have hscan : scan [] i.remaining = scan [t] ts := by rw [hi,scan_opens ht]
  have hinside : (many0From (inner.action env) [] (s.push t) (i.advance 1)).Tells Grammar.none
      (FormsTold (s.push t) (i.advance 1) []) :=
    formsFrom_tells [] (s.push t) (i.advance 1) fun s' i' hi' => h s' i' (by omega)
  rw [block_opens hi ht]
  refine .emitAll (.bind hinside fun events reply hr => ?_)
  have hreports := hr.reports_block hi ht
  obtain ⟨hreply,-⟩ := hr
  cases hreply with
  | unopened _ hs => exact absurd hs (by simp [OpenBraces.push])
  | @unclosed brace outer hopen =>
    have hall : scan [] i.remaining = .finished (brace :: (outer ++ [t])) := by
      rw [hscan,show [t] = [] ++ [t] from rfl,scan_append,← hrest,hopen]
      rfl
    refine .done ⟨.unclosed hall,fun count outer _ => ?_⟩
    rw [hreports,List.append_nil,← List.append_assoc]
    rfl
  | @read forms after hread hf ha hs =>
    have hafter := Stream.remaining_advance_of_append hread
    rw [hrest] at hread
    cases after with
    | nil =>
      have hall : scan [] i.remaining = .finished [t] := by
        rw [hscan,hread,hf.scan_tokens,scan_nil]
      simp only [Action.map,commit_closing_nil hafter,Process.map,emitAll_bind,done_bind]
      refine .emitAll (.done ⟨.unclosed hall,fun count outer _ => ?_⟩)
      rw [hreports,eventsAfterForms,hafter,eventsBehind_nil]
      simp [eventsAfterForm,Outcome.map]
    | cons c rest =>
      have hpop : (s.push t).pop? = some s := rfl
      have hall : i.remaining = Form.tokens [.block t forms c] ++ rest := by simp [hi,hread]
      have hblock : FormReply s i _ := .read hall (.block ht ha.head hf .nil)
      have hlast : ((i.advance 1).advance (Form.tokens forms).length).advance 1 =
          i.advance (Form.tokens [.block t forms c]).length := by
        simp [Nat.add_comm]
      have hbehind := i.remaining_advance_of_append hall
      have hnext : ∀ count outer r, r.rest = (i.advance 1).advance (Form.tokens forms).length →
          eventsAfterForms (count :: outer) (.success r) =
            .item r.rest.offset :: eventsFrom (count + 1) outer
              (i.advance (Form.tokens [.block t forms c]).length).offset
              (i.advance (Form.tokens [.block t forms c]).length).remaining := by
        intro count outer r hr
        rw [eventsAfterForms,hr,hafter,eventsBehind_cons,hbehind,← hlast]
        rfl
      simp only [Action.map,commit_closing_closes hafter ha.head hpop,Process.map,emitAll_bind,
        done_bind,hlast]
      refine .emitAll (.done ⟨hblock,fun count outer _ => ?_⟩)
      rw [hreports,hnext _ _ _ rfl]
      simp [eventsAfterForm,Outcome.map,Parsed.map]

/-- A form reads a character, or a block whose inside it reads itself. -/
theorem formBody_tells (env : BraceEnv Γ) (s : OpenBraces) (i : Stream Located) :
    (formBody.action (.define formBody env) s i).Tells Grammar.none (FormTold s i) := by
  have hinner : ∀ s' i', i'.length < i.length →
      (Parser.action (.placeholder .here) (.define formBody env) s' i').Tells Grammar.none
        (FormTold s' i') :=
    fun s' i' _ => Tells.call (formBody_tells env s' i') fun _ _ hr => .done (by simpa using hr)
  cases hi : i.remaining with
  | nil =>
    rw [formBody_of_failure (normal_nil hi),block_nil hi]
    refine .emitAll (.done ⟨.ended hi,fun count outer _ => ?_⟩)
    rw [hi,eventsFrom_nil]
    simp [eventsAfterForm,hi]
  | cons t ts =>
    by_cases ho : t.Opens
    · rw [formBody_of_failure (normal_opens hi ho)]
      exact .emitAll (block_tells hi ho hinner)
    · by_cases hc : t.Closes
      · cases hs : s.toList with
        | nil =>
          have hpop : s.pop? = none := by simp [OpenBraces.pop?,hs]
          rw [formBody_of_error (normal_unmatched hi hc hpop)]
          refine .emitAll (.done ⟨.unopened hi hc hs,fun count outer houter => ?_⟩)
          rw [hi,houter.mpr hs,eventsFrom_unmatched hc]
          rfl
        | cons brace below =>
          have hpop : s.pop? = some ⟨below,s.depth - 1⟩ := by simp [OpenBraces.pop?,hs]
          have hne : s.toList ≠ [] := by simp [hs]
          rw [formBody_of_failure (normal_closes hi hc hpop),block_other hi ho]
          refine .emitAll (.emitAll (.done ⟨.closing hi hc hne,fun count outer houter => ?_⟩))
          cases outer with
          | nil => exact absurd (houter.mp rfl) hne
          | cons m rest =>
            rw [hi,eventsFrom_closes hc]
            simp [eventsAfterForm,hi]
      · rw [formBody_of_success (normal_plain hi ho hc)]
        have hall : i.remaining = Form.tokens [.char t] ++ ts := by simp [hi]
        have hread : FormReply s i _ := .read hall (.char ho hc .nil)
        have hrest : (i.advance 1).remaining = ts := by simp [hi]
        refine .emitAll (.done ⟨by simpa [Parsed.map] using hread,fun count outer _ => ?_⟩)
        rw [hi,eventsFrom_plain ho hc,← hrest]
        simp only [eventsAfterForm,List.append_nil]
        rfl
termination_by i.length

theorem form_tells (env : BraceEnv Γ) (s : OpenBraces) (i : Stream Located) :
    (form.action env s i).Tells Grammar.none (FormTold s i) :=
  formBody_tells env s i

theorem document_tells (env : BraceEnv Γ) (s : OpenBraces) (i : Stream Located) :
    (document.action env s i).Tells Grammar.none (FormsTold s i []) :=
  formsFrom_tells [] s i fun s' i' _ => form_tells env s' i'

end Backtrack.Braces.Grammar
