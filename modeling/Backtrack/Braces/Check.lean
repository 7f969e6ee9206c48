import Backtrack.Braces.Grammar.Rule
import Backtrack.Braces.Summary

/-!
The check of a source: its forms if every brace has a partner, or the first mismatch.
-/
namespace Backtrack.Braces

/-- The result of a check and what was reported on the way. -/
structure Checked where
  result : Except Mismatch (List Form)
  events : List Event

/-- Read a source as a document. A source too long for its places to be counted is a fault. -/
def check (source : String) : Except Fault Checked :=
  match tokenize source with
  | .error reason => .error reason
  | .ok tokens =>
    let report := Grammar.wholeDocument.run .empty (Stream.ofList 0 tokens)
    match report.result with
    | .error reason => .error reason
    | .ok reply =>
      let result :=
        match reply with
        | .success r => .ok r.value
        | .error mismatch => .error mismatch
        | .failure => .ok []
      .ok ⟨result, .check tokens.length :: report.events⟩

end Backtrack.Braces
