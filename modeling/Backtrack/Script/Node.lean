import Backtrack.Script.Function

/-!
Parser scripts: descriptions of parsers that are built and run on demand.
-/
namespace Backtrack.Script

/-- A parser as a script describes it. -/
inductive Node
  /-- Consume a token without the itemizer. -/
  | rawItem
  | pure (v : Operand)
  | zero
  | error (v : Operand)
  | get
  /-- Go on with these tokens, in a buffer of their own. -/
  | put (tokens : List Value)
  /-- Go on with the stream that a variable holds. -/
  | putVar (name : String)
  | getState
  | putState (v : Operand)
  | updateState (f : Function)
  | item
  | literal (v : Operand)
  | literalBy (v : Operand) (e : Equality)
  | satisfy (q : Predicate)
  | string (v : Operand)
  | oneOf (v : Operand)
  /-- A token of the itemizer where `p` does not match. -/
  | itemNot1 (p : Node)
  | map (f : Function) (p : Node)
  | check (q : Predicate) (p : Node)
  | mapError (f : Function) (p : Node)
  /-- `q` is built with the value of `p` each time it runs. -/
  | bind (p : Node) (name : String) (q : Node)
  /-- `q` is built with the payload of `p` each time it runs. -/
  | catchError (p : Node) (name : String) (q : Node)
  | plus (p q : Node)
  | both (p q : Node)
  | keepLeft (p q : Node)
  | keepRight (p q : Node)
  | alt (ps : List Node)
  | seq (ps : List Node)
  /-- `p` as often as the operand says. -/
  | times (v : Operand) (p : Node)
  /-- The node beside the first value equal to the operand, or the last one. -/
  | select (v : Operand) (cases : List (Value × Node)) (otherwise : Node)
  | many0 (p : Node)
  | many1 (p : Node)
  | optional (p : Node) (v : Operand)
  | maybe (p : Node)
  | not0 (p : Node)
  | not1 (p : Node)
  | lookahead (p : Node)
  | commit (v : Operand) (p : Node)
  | tuple (ps : List Node)
  | app (f : Function) (ps : List Node)
  | recursive (name : String) (p : Node)
  /-- The placeholder of the nearest `recursive` or `leak` of this name. -/
  | ref (name : String)
  /-- `p` is built each time it runs. -/
  | deferred (p : Node)
  /-- The rule of this name, built each time it runs. -/
  | rule (name : String)
  /-- The placeholder of a definition that was built and thrown away. -/
  | leak (name : String) (p : Node)
  /-- While the node is built, `p` is run on these tokens; the node stands for its verdict. -/
  | probe (p : Node) (tokens : List Value) (state : Value)

/-- How the itemizer of a script consumes a token. -/
inductive Policy
  | basic
  | count
  | position
  /-- As a script of its own says, which is built over the basic itemizer. -/
  | custom (token : Node)

/-- A parser, the rules that it may call, and the inputs to run it on. -/
structure Job where
  policy : Policy
  parser : Node
  rules : List (String × Node)
  /-- Tokens and initial state of each run. -/
  runs : List (List Value × Value)

end Backtrack.Script
