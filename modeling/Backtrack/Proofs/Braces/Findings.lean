import Backtrack.Braces.Check
import Backtrack.Proofs.Braces.Document

/-!
What a check finds out about the tokens of its source, and what it reports on the way.
-/
namespace Backtrack.Braces

open Form (WellFormed)

/-- The tokens are those of well-formed forms, or a scan of them shows a brace without a partner. -/
inductive Finds (ts : List Located) : Except Mismatch (List Form) → Prop
  | balanced {forms : List Form} (hf : WellFormed forms) (h : ts = Form.tokens forms) :
      Finds ts (.ok forms)
  | unopened {brace : Located} {after : List Located} (h : scan [] ts = .stopped brace after) :
      Finds ts (.error (.unmatchedClose brace))
  | unclosed {brace : Located} {outer : List Located}
      (h : scan [] ts = .finished (brace :: outer)) : Finds ts (.error (.unmatchedOpen brace))

namespace Finds

variable {ts : List Located} {forms : List Form} {brace : Located}
  {result other : Except Mismatch (List Form)}

lemma ok_iff : Finds ts (.ok forms) ↔ WellFormed forms ∧ ts = Form.tokens forms :=
  ⟨fun h => by cases h with | balanced hf h => exact ⟨hf,h⟩,fun ⟨hf,h⟩ => .balanced hf h⟩

lemma unmatchedClose_iff : Finds ts (.error (.unmatchedClose brace)) ↔
    ∃ after, scan [] ts = .stopped brace after :=
  ⟨fun h => by cases h with | unopened h => exact ⟨_,h⟩,fun ⟨_,h⟩ => .unopened h⟩

/-- A scan closes all that it opens in the tokens of well-formed forms. -/
lemma scan_of_ok (h : Finds ts (.ok forms)) : scan [] ts = .finished [] := by
  obtain ⟨hf,rfl⟩ := ok_iff.mp h
  have hscan := hf.scan_tokens [] []
  rwa [List.append_nil,scan_nil] at hscan

lemma unique (h : Finds ts result) (h' : Finds ts other) : result = other := by
  cases h with
  | @balanced forms hf h =>
    have hscan := scan_of_ok (.balanced hf h)
    cases h' with
    | @balanced others hf' h' =>
      have heq : Form.tokens forms ++ [] = Form.tokens others ++ [] := by
        rw [List.append_nil,List.append_nil,← h,h']
      obtain ⟨rfl,-⟩ := hf.tokens_append_inj hf' Form.ended_nil Form.ended_nil heq
      rfl
    | unopened h' => simp [hscan] at h'
    | unclosed h' => simp [hscan] at h'
  | unopened h =>
    cases h' with
    | balanced hf' h' => simp [scan_of_ok (.balanced hf' h')] at h
    | unopened h' =>
      obtain ⟨rfl,-⟩ := Scan.stopped.inj (h.symm.trans h')
      rfl
    | unclosed h' => simp [h] at h'
  | unclosed h =>
    cases h' with
    | balanced hf' h' => simp [scan_of_ok (.balanced hf' h')] at h
    | unopened h' => simp [h] at h'
    | unclosed h' =>
      obtain ⟨rfl,-⟩ := List.cons.inj (Scan.finished.inj (h.symm.trans h'))
      rfl

end Finds

variable {source : String} {ts : List Located} {result : Except Mismatch (List Form)}

/-- A check finds out about its tokens what there is to find out. Between its beginning and its end
it reports what is told in one pass over them. -/
theorem check_finds (hts : tokenize source = .ok ts) : ∃ checked verdict consumed,
    check source = .ok checked ∧ Finds ts checked.result ∧
      checked.events = .check ts.length :: .run ts.length ::
        (Grammar.eventsFrom 0 [] 0 ts ++ [.runFinished verdict consumed]) := by
  obtain ⟨events,reply,hrun,hreply,hreports⟩ :=
    Grammar.document_report .empty (Stream.ofList 0 ts)
  have hremaining := Stream.remaining_ofList 0 ts
  have hlength : (Stream.ofList 0 ts).length = ts.length := Stream.length_eq_of_remaining hremaining
  have hevents : Grammar.eventsFrom 0 [] 0 ts = events := by
    have hreports := hreports [] (iff_of_true rfl rfl)
    rw [hremaining] at hreports
    rw [← List.append_nil events]
    cases reply <;> exact hreports
  simp only [check,hts,hrun,hlength,← hevents]
  refine ⟨_,_,_,rfl,?_,rfl⟩
  cases hreply with
  | unopened h _ =>
    rw [hremaining] at h
    exact .unopened h
  | unclosed h =>
    rw [hremaining] at h
    exact .unclosed h
  | @read forms after h hf _ hs =>
    rw [hremaining,hs rfl,List.append_nil] at h
    exact .balanced hf h

/-- What a check finds out is all that there is to find out. -/
lemma check_result_iff (hts : tokenize source = .ok ts) :
    (∃ checked, check source = .ok checked ∧ checked.result = result) ↔ Finds ts result := by
  obtain ⟨checked,verdict,consumed,hcheck,hfinds,-⟩ := check_finds hts
  constructor
  · rintro ⟨other,hother,rfl⟩
    obtain rfl := Except.ok.inj (hcheck.symm.trans hother)
    exact hfinds
  · intro h
    exact ⟨checked,hcheck,hfinds.unique h⟩

/-- A source that is checked has tokens. -/
lemma tokens_of_check {checked : Checked} (h : check source = .ok checked) :
    ∃ ts, tokenize source = .ok ts := by
  rw [check] at h
  cases hts : tokenize source with
  | error reason => simp [hts] at h
  | ok ts => exact ⟨ts,rfl⟩

end Backtrack.Braces
