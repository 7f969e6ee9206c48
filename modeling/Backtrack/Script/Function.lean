import Backtrack.Script.Value

/-!
The functions, predicates and equalities that parser scripts name. An argument is a value, or a
variable that an enclosing node binds. On values of another kind a predicate is false and a
function gives the value that its rule gives for no items.
-/
namespace Backtrack.Script

/-- The values of bound variables, innermost first. -/
abbrev Vars := List (String × Value)

/-- A value, or the variable that holds it. -/
inductive Operand
  | value (v : Value)
  | var (name : String)

/-- The value of an operand. A variable that nothing binds stands for the unit. -/
def Operand.get (vars : Vars) : Operand → Value
  | value v => v
  | var name => (vars.lookup name).getD .unit

/-- A function on values. The items of a value are what `Value.items` lists. -/
inductive Function
  | id
  | const (v : Operand)
  | add (n : Operand)
  | mul (n : Operand)
  | len
  | str
  | sum
  | rev
  | push (v : Operand)
  | pop
  | list
  | nth (i : Operand)
  | wrap
  | tag (v : Operand)
  | ord
  | digits
  | nest
  | bumpLine

namespace Function

/-- The integer of an operand. -/
def number (vars : Vars) (n : Operand) : Int := ((n.get vars).int?).getD 0

/-- The number that decimal digits spell. -/
def decimal (digits : List Value) : Int :=
  digits.foldl
    (fun n d => 10 * n + ((d.char?).elim 0 fun c => (c.toNat : Int) - ('0'.toNat : Int))) 0

/-- The largest of some integers, and 0 if there is none. -/
def largest (items : List Value) : Int :=
  ((items.filterMap Value.int?).max?).getD 0

/-- Apply a function to `x`. Only moving to the next line can fault. -/
def apply (vars : Vars) (f : Function) (x : Value) : Except Fault Value :=
  match f with
  | id => .ok x
  | const v => .ok (v.get vars)
  | add n => .ok (.int ((x.int?).getD 0 + number vars n))
  | mul n => .ok (.int ((x.int?).getD 0 * number vars n))
  | len => .ok (.int x.size)
  | str => .ok (.string x.text)
  | sum => .ok (.int x.sum)
  | rev => .ok (x.like x.items.reverse)
  | push v => .ok (x.like (x.items ++ [v.get vars]))
  | pop => .ok (x.like x.items.dropLast)
  | list => .ok (.list x.items)
  | nth i => .ok ((x.items[(number vars i).toNat]?).getD .unit)
  | wrap => .ok (.list [x])
  | tag v => .ok (.tuple [v.get vars, x])
  | ord => .ok (.int ((x.char?).elim 0 fun c => (c.toNat : Int)))
  | digits => .ok (.int (decimal x.items))
  | nest => .ok (.int (1 + largest ((x.items[1]?).elim [] Value.items)))
  | bumpLine =>
    match x with
    | .position p => (p.bump '\n').map .position
    | _ => .ok x

end Function

/-- A test of a value. -/
inductive Predicate
  | any
  | never
  | alpha
  | digit
  | upper
  | space
  | eq (v : Operand)
  | ne (v : Operand)
  | gt (n : Operand)
  | lt (n : Operand)
  | even
  | lenGe (n : Operand)

namespace Predicate

/-- A test of a character; false on other values. -/
def ofChar (test : Char → Bool) (x : Value) : Bool := (x.char?).elim false test

/-- A test of an integer; false on other values. -/
def ofInt (test : Int → Bool) (x : Value) : Bool := (x.int?).elim false test

def holds (vars : Vars) (q : Predicate) (x : Value) : Bool :=
  match q with
  | any => true
  | never => false
  | alpha => ofChar Char.isAlpha x
  | digit => ofChar Char.isDigit x
  | upper => ofChar Char.isUpper x
  | space => ofChar (fun c => c == ' ' || c == '\n' || c == '\t') x
  | eq v => x == v.get vars
  | ne v => !(x == v.get vars)
  | gt n => ofInt (fun k => Function.number vars n < k) x
  | lt n => ofInt (fun k => k < Function.number vars n) x
  | even => ofInt (fun k => k % 2 == 0) x
  | lenGe n =>
    match x with
    | .list items => Function.number vars n ≤ items.length
    | .tuple items => Function.number vars n ≤ items.length
    | _ => false

end Predicate

/-- A way for a token to count as another. -/
inductive Equality
  | eq
  | never
  | ignoreCase
  | mod10
  | less
  | first
  deriving DecidableEq, Repr

/-- Whether a token counts as the expected one. -/
def Equality.holds : Equality → Value → Value → Bool
  | eq, expected, token => expected == token
  | never, _, _ => false
  | ignoreCase, .char a, .char b => a.toLower == b.toLower
  | mod10, .int a, .int b => a % 10 == b % 10
  | less, .int a, .int b => a < b
  | less, .char a, .char b => a < b
  | first, .tuple as, .tuple bs => as.head? == bs.head?
  | _, _, _ => false

end Backtrack.Script
