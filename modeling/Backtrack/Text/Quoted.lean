import Backtrack.Text.Hidden

/-!
Quoted characters and strings. Five control characters and the backslash have short escapes, the
quote in use is escaped, and a hidden character is written by its code point; every other
character stands for itself.
-/
namespace Backtrack.Text

/-- The code point of `c` in braces, in lower-case hexadecimal. -/
def codePoint (c : Char) : List Char :=
  ['\\', 'u', '\x7b'] ++ Nat.toDigits 16 c.toNat ++ ['\x7d']

/-- One character between quotes `quote`, where `hidden` says what cannot be shown. -/
def escape (hidden : Char → Bool) (quote c : Char) : List Char :=
  if c = '\x00' then ['\\', '0']
  else if c = '\t' then ['\\', 't']
  else if c = '\r' then ['\\', 'r']
  else if c = '\n' then ['\\', 'n']
  else if c = '\\' then ['\\', '\\']
  else if c = quote then ['\\', c]
  else if hidden c then codePoint c
  else [c]

/-- The characters `cs` between quotes `quote`. -/
def quoted (hidden : Char → Bool) (quote : Char) (cs : List Char) : List Char :=
  quote :: (cs.flatMap (escape hidden quote) ++ [quote])

/-- A character in single quotes. -/
def quotedChar (c : Char) : String := String.ofList (quoted isHidden '\x27' [c])

/-- A string in double quotes. -/
def quotedString (s : String) : String := String.ofList (quoted isHidden '\x22' s.toList)

end Backtrack.Text
