import Backtrack.Braces.Grammar.Halting

/-!
The rules of the grammar by name, each run to its end from given open braces and tokens.
-/
namespace Backtrack.Braces.Grammar

/-- A brace parser that always comes to an end. -/
structure Terminating (α : Type) where
  parser : BraceParser [] α
  halts : ∀ s i, (parser.run s i).config.Halts Grammar.none

/-- Run to the end. -/
def Terminating.run {α : Type} (t : Terminating α) (braces : OpenBraces) (input : Stream Located) :
    Report (Reply OpenBraces Located Mismatch α) :=
  (t.parser.run braces input).finish .none (t.halts braces input)

/-- A whole source. -/
def wholeDocument : Terminating (List Form) where
  parser := document
  halts s i := (Action.run_leaves (document_leaves .empty s i)).halts

/-- A rule of the grammar. -/
inductive Rule
  | opening
  | closing
  | normal
  | form
  | document
  deriving DecidableEq, Repr

namespace Rule

def ofName? : String → Option Rule
  | "open" => some opening
  | "close" => some closing
  | "normal" => some normal
  | "form" => some form
  | "document" => some document
  | _ => none

/-- What a rule produces: one token, or forms. -/
inductive Product
  | token (t : Located)
  | forms (fs : List Form)

/-- The parser of a rule. -/
def parser : Rule → Terminating Product
  | opening =>
    { parser := .map .token Grammar.opening
      halts := fun s i => (Action.run_leaves (Action.map_leaves (opening_leaves .empty s i))).halts }
  | closing =>
    { parser := .map .token Grammar.closing
      halts := fun s i => (Action.run_leaves (Action.map_leaves (closing_leaves .empty s i))).halts }
  | normal =>
    { parser := .map .token Grammar.normal
      halts := fun s i => (Action.run_leaves (Action.map_leaves (normal_leaves .empty s i))).halts }
  | form =>
    { parser := .map (fun f => .forms [f]) Grammar.form
      halts := fun s i => (Action.run_leaves (Action.map_leaves (form_leaves .empty s i))).halts }
  | document =>
    { parser := .map .forms Grammar.document
      halts := fun s i => (Action.run_leaves (Action.map_leaves (document_leaves .empty s i))).halts }

end Rule

/-- Where a series of rules has come to. -/
structure Session where
  braces : OpenBraces
  rest : Stream Located

/-- Run a rule and go on from where it succeeds; a failure or an error leaves the session alone. -/
def Session.step (session : Session) (rule : Rule) :
    Report (Reply OpenBraces Located Mismatch Rule.Product) × Session :=
  let report := rule.parser.run session.braces session.rest
  match report.result with
  | .ok (.success r) => (report, ⟨r.state, r.rest⟩)
  | _ => (report, session)

end Backtrack.Braces.Grammar
