import Backtrack.Text.Quoted
import Mathlib.Tactic.Common
import Mathlib.Tactic.SplitIfs

/-!
Escapes, read back. Whatever is hidden, a character between single quotes is told apart from every
other one: a short escape names it, a code point writes its number, and otherwise it stands there.
-/
namespace Backtrack.Text

/-- The value of a hexadecimal digit. -/
def digitValue (c : Char) : ℕ :=
  if c.isDigit then c.toNat - '0'.toNat else c.toNat - 'a'.toNat + 10

/-- The number that hexadecimal digits write. -/
def number (digits : List Char) : ℕ := digits.foldl (fun n c => 16 * n + digitValue c) 0

/-- The character that a letter stands for behind a backslash. -/
def shortEscape : Char → Char
  | '0' => '\x00'
  | 't' => '\t'
  | 'r' => '\r'
  | 'n' => '\n'
  | c => c

/-- Read back what stands between single quotes. -/
def unescape? : List Char → Option Char
  | [c] => some c
  | ['\\',c] => some (shortEscape c)
  | '\\' :: 'u' :: '\x7b' :: digits => some (Char.ofNat (number digits.dropLast))
  | _ => none

lemma digitValue_digitChar : ∀ n < 16, digitValue n.digitChar = n := by decide

/-- Digits write the number that they were made from. -/
lemma number_toDigits (n : ℕ) : number (Nat.toDigits 16 n) = n := by
  induction n using Nat.strongRecOn with
  | _ n ih =>
    rw [Nat.toDigits_eq_if (by decide)]
    split
    · next h => simp [number,digitValue_digitChar n h]
    · next h =>
      have hfront := ih (n / 16) (by omega)
      rw [number] at hfront ⊢
      rw [List.foldl_append,hfront,List.foldl_cons,List.foldl_nil,
        digitValue_digitChar _ (by omega)]
      omega

lemma notMem_toDigits {c : Char} (h : ∀ k, Nat.digitChar k ≠ c) {b : ℕ} (hb : 1 < b) (n : ℕ) :
    c ∉ Nat.toDigits b n := by
  induction n using Nat.strongRecOn with
  | _ n ih =>
    rw [Nat.toDigits_eq_if hb]
    split
    · simpa using (h n).symm
    · next hle =>
      have hfront := ih (n / b) (Nat.div_lt_self (by omega) hb)
      simpa using ⟨hfront,(h _).symm⟩

/-- An escaped character is read back, whatever set of characters is hidden. -/
theorem unescape?_escape (hidden : Char → Bool) (c : Char) :
    unescape? (escape hidden '\x27' c) = some c := by
  rw [escape]
  split_ifs with hnull htab hreturn hnewline hbackslash hquote hhidden
  · rw [hnull]; rfl
  · rw [htab]; rfl
  · rw [hreturn]; rfl
  · rw [hnewline]; rfl
  · rw [hbackslash]; rfl
  · rw [hquote]; rfl
  · have hdigits : unescape? (codePoint c) =
        some (Char.ofNat (number (Nat.toDigits 16 c.toNat ++ ['\x7d']).dropLast)) := rfl
    rw [hdigits,List.dropLast_concat,number_toDigits,Char.ofNat_toNat]
  · rfl

lemma newline_notMem_escape (hidden : Char → Bool) (c : Char) :
    '\n' ∉ escape hidden '\x27' c := by
  rw [escape]
  split_ifs with hnull htab hreturn hnewline hbackslash hquote hhidden
  · decide
  · decide
  · decide
  · decide
  · decide
  · rw [hquote]; decide
  · have hdigits : '\n' ∉ Nat.toDigits 16 c.toNat :=
      notMem_toDigits (fun k => Nat.digitChar_ne '\n' rfl) (by decide) _
    simp [codePoint,hdigits]
  · simpa [eq_comm] using hnewline

end Backtrack.Text
