import Backtrack.Position
import Backtrack.Stream
import Backtrack.Text.Quoted

/-!
The values of parser scripts: one type for tokens, states, results and payloads.
-/
namespace Backtrack.Script

/-- A value of any kind that scripts know. -/
inductive Value
  | unit
  | bool (b : Bool)
  | int (n : Int)
  | string (s : String)
  | char (c : Char)
  | list (items : List Value)
  | tuple (items : List Value)
  | option (content : Option Value)
  | position (p : Position)
  | stream (s : Stream Value)
  /-- A stream whose tokens are characters. -/
  | charStream (s : Stream Char)

namespace Value

instance : Inhabited Value := ⟨unit⟩

/-- Values are equal when they have the same kind and the same contents; streams compare by what
remains, so as many values as their offset says are left out. -/
def same : Value → Value → Bool
  | unit, unit => true
  | bool a, bool b => a == b
  | int a, int b => a == b
  | string a, string b => a == b
  | char a, char b => a == b
  | list as, list bs => sameAll 0 as bs
  | tuple as, tuple bs => sameAll 0 as bs
  | option none, option none => true
  | option (some a), option (some b) => a.same b
  | position p, position q => p == q
  | stream ⟨⟨_, ⟨as⟩⟩, offset⟩, stream t => sameAll offset as t.remaining
  | charStream s, charStream t => s == t
  | _, _ => false
where
  /-- What follows the first `skip` values of one list is the other list. -/
  sameAll (skip : Nat) : List Value → List Value → Bool
    | [], bs => bs.isEmpty
    | a :: as, bs =>
      match skip, bs with
      | skip + 1, bs => sameAll skip as bs
      | 0, b :: bs => a.same b && sameAll 0 as bs
      | 0, [] => false

instance : BEq Value := ⟨same⟩

/-- What a value holds: members, characters, remaining tokens, or the content of an option. -/
def items : Value → List Value
  | list items => items
  | tuple items => items
  | string s => s.toList.map char
  | option content => content.toList
  | stream s => s.remaining
  | charStream s => s.remaining.map char
  | _ => []

/-- How many items a value has. -/
def size : Value → Nat
  | list items => items.length
  | tuple items => items.length
  | string s => s.length
  | option content => content.elim 0 fun _ => 1
  | stream s => s.length
  | charStream s => s.length
  | _ => 0

@[simp] theorem length_items (v : Value) : v.items.length = v.size := by
  cases v with
  | option content => cases content <;> rfl
  | _ => simp [items, size, String.length_toList]

/-- The text of a value, without any punctuation. -/
def text : Value → String
  | unit => ""
  | bool b => if b then "true" else "false"
  | int n => toString n
  | string s => s
  | char c => c.toString
  | position p => p.text
  | list items => textAll 0 "" items
  | tuple items => textAll 0 "" items
  | option none => ""
  | option (some v) => v.text
  | stream ⟨⟨_, ⟨tokens⟩⟩, offset⟩ => textAll offset "" tokens
  | charStream s => String.ofList s.remaining
where
  /-- `before`, and the texts of what follows the first `skip` values. -/
  textAll (skip : Nat) (before : String) : List Value → String
    | [] => before
    | v :: vs =>
      match skip with
      | 0 => textAll 0 (before ++ v.text) vs
      | skip + 1 => textAll skip before vs

/-- A token as it stands in the text of a stream: characters are quoted. -/
def describe : Value → String
  | char c => Text.quotedChar c
  | v => v.text

/-- The sum of the integers in nested lists, tuples and options. -/
def sum : Value → Int
  | int n => n
  | list items => sumAll 0 items
  | tuple items => sumAll 0 items
  | option (some v) => v.sum
  | _ => 0
where
  sumAll (before : Int) : List Value → Int
    | [] => before
    | v :: vs => sumAll (before + v.sum) vs

def int? : Value → Option Int
  | int n => some n
  | _ => none

def char? : Value → Option Char
  | char c => some c
  | _ => none

/-- A collection of the same kind: tuples stay tuples, everything else becomes a list. -/
def like : Value → List Value → Value
  | tuple _, items => tuple items
  | _, items => list items

/-- The stream of values that a value is; any other value stands for an empty one. -/
def toStream : Value → Stream Value
  | stream s => s
  | _ => Stream.ofList 0 []

/-- The stream of characters that a value is; any other value stands for an empty one. -/
def toCharStream : Value → Stream Char
  | charStream s => s
  | _ => Stream.ofList 0 []

end Value
end Backtrack.Script
