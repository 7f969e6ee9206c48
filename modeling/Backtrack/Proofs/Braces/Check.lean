import Backtrack.Braces.Check
import Backtrack.Proofs.Braces.Document

/-!
The check of a source against one scan of its tokens.
-/
namespace Backtrack.Braces

/-- A check accepts a source exactly if the scan closes all that it opens. It reports the closing
brace at which the scan stops, or the innermost brace that the scan leaves open, and it never comes
to a fault or a failure of the document. -/
theorem check_agrees_with_scan (source : String) (ts : List Located)
    (hts : tokenize source = .ok ts) :
    ∃ checked, check source = .ok checked ∧
      ((∃ forms, checked.result = .ok forms) ↔ scan [] ts = .finished []) ∧
      (∀ brace, checked.result = .error (.unmatchedClose brace) ↔
        ∃ after, scan [] ts = .stopped brace after) ∧
      (∀ brace, checked.result = .error (.unmatchedOpen brace) ↔
        ∃ outer, scan [] ts = .finished (brace :: outer)) ∧
      ∃ reply, (Grammar.wholeDocument.run .empty (Stream.ofList 0 ts)).result = .ok reply ∧
        reply ≠ .failure := by
  obtain ⟨reply,hrun,hreply⟩ := Grammar.document_run .empty (Stream.ofList 0 ts)
  have hremaining := Stream.remaining_ofList 0 ts
  simp only [check,hts,hrun]
  refine ⟨_,rfl,?_⟩
  cases hreply with
  | unopened h _ =>
    rw [hremaining] at h
    simp [h,eq_comm]
  | unclosed h =>
    rw [hremaining] at h
    simp [h,eq_comm]
  | @read forms after h hf _ hs =>
    have hscan : scan [] ts = .finished [] := by
      rw [← hremaining,h,hs rfl,hf.scan_tokens,scan_nil]
    simp [hscan]

theorem check_agrees_with_scan_unmatched :
    tokenize "\x7ba\x7d\x7d" = .ok
      [⟨'\x7b',⟨1,1⟩⟩,⟨'a',⟨1,2⟩⟩,⟨'\x7d',⟨1,3⟩⟩,⟨'\x7d',⟨1,4⟩⟩] ∧
    ∃ checked, check "\x7ba\x7d\x7d" = .ok checked ∧
      checked.result = .error (.unmatchedClose ⟨'\x7d',⟨1,4⟩⟩) := by
  have hts : tokenize "\x7ba\x7d\x7d" = .ok
      [⟨'\x7b',⟨1,1⟩⟩,⟨'a',⟨1,2⟩⟩,⟨'\x7d',⟨1,3⟩⟩,⟨'\x7d',⟨1,4⟩⟩] := by decide
  obtain ⟨checked,hcheck,-,hclose,-⟩ := check_agrees_with_scan _ _ hts
  exact ⟨hts,checked,hcheck,(hclose _).mpr ⟨[],by decide⟩⟩

end Backtrack.Braces
