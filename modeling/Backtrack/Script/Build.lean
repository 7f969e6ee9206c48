import Backtrack.Parser.Itemizer
import Backtrack.Script.Node
import Backtrack.Script.Plan

/-!
Parsers from scripts. A script is built for a setting: the types of its states and tokens and the
itemizer that goes with them. All results are turned into values.
-/
namespace Backtrack.Script

/-- Names of the parsers that a script calls by name. -/
inductive RuleName
  /-- The item of a custom policy. -/
  | customItem
  /-- A rule as the item of a custom policy sees it. -/
  | basicRule (name : String)
  | rule (name : String)

/-- Every named parser of a script produces a value. -/
def rules : Rules := ⟨RuleName, fun _ => Value⟩

/-- The types of states and tokens, how they are values, and the itemizer over them. -/
structure Setting where
  State : Type
  Token : Type
  state : Value → State
  ofState : State → Value
  token : Value → Token
  ofToken : Token → Value
  stream : Value → Stream Token
  ofStream : Stream Token → Value
  sameToken : BEq Token
  itemizer : Itemizer rules State Token Value
  /-- Which of the named parsers a rule of the script is. -/
  ruleName : String → RuleName

namespace Setting

/-- Any values, with a given itemizer. -/
def values (itemizer : Itemizer rules Value Value Value) (ruleName : String → RuleName) :
    Setting where
  State := Value
  Token := Value
  state v := v
  ofState v := v
  token v := v
  ofToken v := v
  stream := Value.toStream
  ofStream := .stream
  sameToken := inferInstance
  itemizer := itemizer
  ruleName := ruleName

def basic : Setting := values .basic .rule

/-- The setting in which the item of a custom policy is built. -/
def customItem : Setting := values .basic .basicRule

def custom : Setting := values ⟨.rule RuleName.customItem⟩ .rule

/-- The state counts tokens of any kind. -/
def count : Setting where
  State := Nat
  Token := Value
  state v := ((v.int?).getD 0).toNat
  ofState n := .int n
  token v := v
  ofToken v := v
  stream := Value.toStream
  ofStream := .stream
  sameToken := inferInstance
  itemizer := .count
  ruleName := .rule

/-- The state is the place of the next character. -/
def position : Setting where
  State := Position
  Token := Char
  state
    | .position p => p
    | _ => .start
  ofState := .position
  token v := (v.char?).getD '\x00'
  ofToken := .char
  stream := Value.toCharStream
  ofStream := .charStream
  sameToken := inferInstance
  itemizer := .position
  ruleName := .rule

variable (S : Setting)

instance : BEq S.Token := S.sameToken

/-- The parsers of a setting. -/
abbrev Parser (Γ : List Type) (α : Type) := Backtrack.Parser rules S.State S.Token Value Γ α

/-- The label of the buffers that scripts make; the input of a run has another one. -/
def madeLabel : Nat := 1

/-- The label of the input of a run. -/
def inputLabel : Nat := 0

def input (label : Nat) (tokens : List Value) : Stream S.Token :=
  Stream.ofList label (tokens.map S.token)

end Setting

/-- What a placeholder's name stands for. -/
inductive Entry (Γ : List Type) : Type 1
  | slot (s : Slot Γ Value)
  /-- The definition is not there; to run it is a fault. -/
  | absent (reason : Fault)

/-- The placeholders in sight, innermost first. -/
abbrev Scope (Γ : List Type) := List (String × Entry Γ)

/-- A name that nothing defines stands for a definition that is gone. -/
def Scope.get {Γ : List Type} (scope : Scope Γ) (name : String) : Entry Γ :=
  (scope.lookup name).getD (.absent .dropped)

/-- The same placeholders inside one more definition. -/
def Scope.inside {Γ : List Type} (scope : Scope Γ) : Scope (Value :: Γ) :=
  scope.map fun
    | (name, .slot s) => (name, .slot s.there)
    | (name, .absent reason) => (name, .absent reason)

namespace Node

variable {S : Setting}

/-- Parsers in order, their values in a tuple. -/
def tupleOf {Γ : List Type} : List (S.Parser Γ Value) → S.Parser Γ Value
  | [p₁] => Parser.app1 (fun a => .tuple [a]) p₁
  | [p₁, p₂] => Parser.app2 (fun a b => .tuple [a, b]) p₁ p₂
  | [p₁, p₂, p₃] => Parser.app3 (fun a b c => .tuple [a, b, c]) p₁ p₂ p₃
  | [p₁, p₂, p₃, p₄] => Parser.app4 (fun a b c d => .tuple [a, b, c, d]) p₁ p₂ p₃ p₄
  | [p₁, p₂, p₃, p₄, p₅] =>
    Parser.app5 (fun a b c d e => .tuple [a, b, c, d, e]) p₁ p₂ p₃ p₄ p₅
  | [p₁, p₂, p₃, p₄, p₅, p₆] =>
    Parser.app6 (fun a b c d e f => .tuple [a, b, c, d, e, f]) p₁ p₂ p₃ p₄ p₅ p₆
  | ps => .map .tuple (Parser.seq ps)

/-- Apply a script's function to the value of a parser. -/
def applied {Γ : List Type} (vars : Vars) (f : Function) (p : S.Parser Γ Value) :
    S.Parser Γ Value :=
  .bind p fun v => Parser.ofExcept (f.apply vars v)

/-- Apply a script's function to the payload of an error. -/
def appliedToError {Γ : List Type} (vars : Vars) (f : Function) (p : S.Parser Γ Value) :
    S.Parser Γ Value :=
  .catchError p fun e =>
    match f.apply vars e with
    | .ok payload => .error payload
    | .error reason => .fault reason

def unit {Γ : List Type} (p : S.Parser Γ Unit) : S.Parser Γ Value := .map (fun _ => .unit) p

def token {Γ : List Type} (p : S.Parser Γ S.Token) : S.Parser Γ Value := .map S.ofToken p

def list {Γ : List Type} (p : S.Parser Γ (List Value)) : S.Parser Γ Value := .map .list p

/-- The tokens that an operand lists; a character lists itself. -/
def tokensOf : Value → List Value
  | .char c => [.char c]
  | v => v.items

mutual

/-- Build a node. `scope` holds the placeholders in sight. A trial sees those of `root`, where the
building began: what is being built since then is not yet there to be run. -/
def build {Γ₀ Γ : List Type} (node : Node) (vars : Vars) (root : Scope Γ₀) (scope : Scope Γ) :
    Plan rules S.State S.Token Value Γ₀ (S.Parser Γ Value) :=
  match node with
  | .rawItem => return token .item
  | .pure v => return .pure (v.get vars)
  | .zero => return .zero
  | .error v => return .error (v.get vars)
  | .get => return .map S.ofStream .get
  | .put tokens => return unit (.put (S.input Setting.madeLabel tokens))
  | .putVar name => return unit (.put (S.stream ((Operand.var name).get vars)))
  | .getState => return .map S.ofState .getState
  | .putState v => return unit (.putState (S.state (v.get vars)))
  | .updateState f =>
    return unit (.updateState fun s => (f.apply vars (S.ofState s)).map S.state)
  | .item => return token S.itemizer.item
  | .literal v => return token (S.itemizer.literal (S.token (v.get vars)))
  | .literalBy v e =>
    return token (S.itemizer.literalBy (fun a b => e.holds (S.ofToken a) (S.ofToken b))
      (S.token (v.get vars)))
  | .satisfy q => return token (S.itemizer.satisfy fun t => q.holds vars (S.ofToken t))
  | .string v =>
    return list (.map (·.map S.ofToken) (S.itemizer.string ((tokensOf (v.get vars)).map S.token)))
  | .oneOf v => return token (S.itemizer.oneOf ((tokensOf (v.get vars)).map S.token))
  | .itemNot1 p => return token (S.itemizer.not1 (← p.build vars root scope))
  | .map f p => return applied vars f (← p.build vars root scope)
  | .check q p => return .check (q.holds vars) (← p.build vars root scope)
  | .mapError f p => return appliedToError vars f (← p.build vars root scope)
  | .bind p name q =>
    return .bind (← p.build vars root scope) fun v =>
      (q.build ((name, v) :: vars) scope scope).toParser
  | .catchError p name q =>
    return .catchError (← p.build vars root scope) fun e =>
      (q.build ((name, e) :: vars) scope scope).toParser
  | .plus p q => return .plus (← p.build vars root scope) (← q.build vars root scope)
  | .both p q =>
    return .map (fun (a, b) => .tuple [a, b])
      (.both (← p.build vars root scope) (← q.build vars root scope))
  | .keepLeft p q =>
    return Parser.keepLeft (← p.build vars root scope) (← q.build vars root scope)
  | .keepRight p q =>
    return Parser.keepRight (← p.build vars root scope) (← q.build vars root scope)
  | .alt ps => return Parser.alt (← buildAll ps vars root scope)
  | .seq ps => return list (Parser.seq (← buildAll ps vars root scope))
  | .times v p =>
    return list (Parser.times (((v.get vars).int?).getD 0).toNat (← p.build vars root scope))
  | .select v cases otherwise =>
    match buildCase (v.get vars) cases vars root scope with
    | some plan => plan
    | none => otherwise.build vars root scope
  | .many0 p => return list (.many0 (← p.build vars root scope))
  | .many1 p => return list (Parser.many1 (← p.build vars root scope))
  | .optional p v => return Parser.optional (← p.build vars root scope) (v.get vars)
  | .maybe p => return .map .option (.maybe (← p.build vars root scope))
  | .not0 p => return unit (.not0 (← p.build vars root scope))
  | .not1 p => return token (Parser.not1 (← p.build vars root scope))
  | .lookahead p => return .lookahead (← p.build vars root scope)
  | .commit v p => return .commit (v.get vars) (← p.build vars root scope)
  | .tuple ps => return tupleOf (← buildAll ps vars root scope)
  | .app f ps => return applied vars f (tupleOf (← buildAll ps vars root scope))
  | .recursive name p =>
    return .recursive (← p.build vars ((name, .absent .unfinished) :: root)
      ((name, .slot .here) :: scope.inside))
  | .ref name =>
    match scope.get name with
    | .slot s => return .placeholder s
    | .absent reason => return .fault reason
  | .deferred p => return Parser.deferred fun _ => (p.build vars scope scope).toParser
  | .rule name => return .rule (S.ruleName name)
  | .leak name p => do
    let _ ← p.build vars ((name, .absent .unfinished) :: root)
      ((name, .slot .here) :: scope.inside)
    return .fault .dropped
  | .probe p tokens state => do
    let q ← p.build vars root root
    .trial q (S.state state) (S.input Setting.madeLabel tokens) fun verdict =>
      return .pure (.string verdict.name)

/-- Build several nodes in order. -/
def buildAll {Γ₀ Γ : List Type} (nodes : List Node) (vars : Vars) (root : Scope Γ₀)
    (scope : Scope Γ) : Plan rules S.State S.Token Value Γ₀ (List (S.Parser Γ Value)) :=
  match nodes with
  | [] => return []
  | node :: rest =>
    return (← node.build vars root scope) :: (← buildAll rest vars root scope)

/-- Build the node beside the first value equal to `v`. -/
def buildCase {Γ₀ Γ : List Type} (v : Value) (cases : List (Value × Node)) (vars : Vars)
    (root : Scope Γ₀) (scope : Scope Γ) :
    Option (Plan rules S.State S.Token Value Γ₀ (S.Parser Γ Value)) :=
  match cases with
  | [] => none
  | (w, node) :: rest =>
    if v == w then some (node.build vars root scope) else buildCase v rest vars root scope

end

end Node
end Backtrack.Script
