import Backtrack.Braces.Form
import Backtrack.Braces.Mismatch
import Backtrack.Braces.OpenBraces
import Backtrack.Parser.Itemizer

/-!
The grammar of matched braces. A document is a sequence of forms; a form is a character or a block,
and a block is a sequence of forms between braces. The open braces are the parser's state. A
closing brace where nothing is open is a committed error, and so is a block without its closing
brace.
-/
namespace Backtrack.Braces

/-- A parser of located characters that tracks the open braces. -/
abbrev BraceParser (Γ : List Type) (α : Type) :=
  Parser Rules.none OpenBraces Located Mismatch Γ α

namespace Grammar

variable {Γ : List Type}

def tokens : Itemizer Rules.none OpenBraces Located Mismatch := .basic

/-- A token for comparison by character. -/
def brace (c : Char) : Located := ⟨c, .start⟩

/-- An opening brace, which is open from here on. -/
def opening : BraceParser Γ Located :=
  .bind (tokens.literalBy Located.sameChar (brace '\x7b')) fun token =>
    Parser.keepRight (.updateState fun braces => .ok (braces.push token)) (.pure token)

/-- A closing brace, which closes the innermost open one. -/
def closing : BraceParser Γ Located :=
  .bind (tokens.literalBy Located.sameChar (brace '\x7d')) fun token =>
    .bind .getState fun braces =>
      match braces.pop? with
      | some outer => Parser.keepRight (.putState outer) (.pure token)
      | none => .error (.unmatchedClose token)

/-- A token that is no brace. -/
def normal : BraceParser Γ Located := tokens.not1 (.plus opening closing)

/-- A block, whose inside is a sequence of what `form` reads. -/
def block (form : BraceParser Γ Form) : BraceParser Γ Form :=
  .bind opening fun start =>
    Parser.app2 (fun forms stop => Form.block start forms stop) (.many0 form)
      (.commit (.unmatchedOpen start) closing)

/-- One character or one block, whose inside the first placeholder reads. -/
def formBody : BraceParser (Form :: Γ) Form :=
  .plus (.map Form.char normal) (block (.placeholder .here))

/-- One character or one block. -/
def form : BraceParser Γ Form := .recursive formBody

/-- A whole source. It never fails: the first form that fails ends the sequence. -/
def document : BraceParser Γ (List Form) := .many0 form

end Grammar
end Backtrack.Braces
