import Backtrack.Script.Build

/-!
Running parser scripts: the parser of a job is built once and run on each of its inputs. A script
may describe a parser that never ends, so a run takes a limited number of steps.
-/
namespace Backtrack.Script

/-- What a run of a script answers. -/
inductive Answer
  /-- `suffix` says whether the rest is a suffix of the input. -/
  | success (state : Value) (rest : List Value) (offset : Nat) (suffix : Bool) (value : Value)
  | failure
  | error (payload : Value)
  | fault (reason : Fault)
  | exhausted

/-- The answer of a run and what was reported on the way. -/
structure Result where
  answer : Answer
  events : List Event

namespace Setting

variable (S : Setting)

/-- A rule of a script, built where it is called. A rule without a definition fails. -/
def ruleParser (definitions : List (String × Node)) (name : String) : S.Parser [] Value :=
  match definitions.lookup name with
  | some node => (node.build [] [] []).toParser
  | none => .zero

/-- The rules of a script. -/
def grammar (definitions : List (String × Node)) : Grammar rules S.State S.Token Value
  | .rule name => S.ruleParser definitions name
  | .basicRule _ => .zero
  | .customItem => .zero

/-- The reply of a run on `input`, with everything turned into values. -/
def answer (input : Stream S.Token) :
    Option (Report (Reply S.State S.Token Value Value)) → Result
  | none => ⟨.exhausted, []⟩
  | some ⟨.error reason, events⟩ => ⟨.fault reason, events⟩
  | some ⟨.ok (.success r), events⟩ =>
    ⟨.success (S.ofState r.state) (r.rest.remaining.map S.ofToken) r.rest.offset
      (r.rest.isSuffixOf input) r.value, events⟩
  | some ⟨.ok .failure, events⟩ => ⟨.failure, events⟩
  | some ⟨.ok (.error payload), events⟩ => ⟨.error payload, events⟩

/-- Build a node once and run it on every input. -/
def perform (G : Grammar rules S.State S.Token Value) (fuel : Nat) (parser : Node)
    (runs : List (List Value × Value)) : Except Plan.Obstacle (List Result) :=
  match (parser.build [] [] [] : Plan _ _ _ _ [] (S.Parser [] Value)).resolve G fuel with
  | .error obstacle => .error obstacle
  | .ok p =>
    .ok (runs.map fun (tokens, state) =>
      let input := S.input inputLabel tokens
      S.answer input ((p.run (S.state state) input).config.runFor G fuel))

end Setting

/-- The rules of a script with a custom item: the item sees them over the basic itemizer. -/
def customGrammar (definitions : List (String × Node))
    (item : Parser rules Value Value Value [] Value) : Grammar rules Value Value Value
  | .rule name => Setting.custom.ruleParser definitions name
  | .basicRule name => Setting.customItem.ruleParser definitions name
  | .customItem => item

/-- Build the parser of a job and run it on each input; building and each run take at most `fuel`
steps. -/
def Job.perform (job : Job) (fuel : Nat) : Except Plan.Obstacle (List Result) :=
  match job.policy with
  | .basic => Setting.basic.perform (Setting.basic.grammar job.rules) fuel job.parser job.runs
  | .count => Setting.count.perform (Setting.count.grammar job.rules) fuel job.parser job.runs
  | .position =>
    Setting.position.perform (Setting.position.grammar job.rules) fuel job.parser job.runs
  | .custom token =>
    let plan : Plan _ _ _ _ [] (Setting.customItem.Parser [] Value) := token.build [] [] []
    match plan.resolve (customGrammar job.rules .zero) fuel with
    | .error obstacle => .error obstacle
    | .ok item => Setting.custom.perform (customGrammar job.rules item) fuel job.parser job.runs

end Backtrack.Script
