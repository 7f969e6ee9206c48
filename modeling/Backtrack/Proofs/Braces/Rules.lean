import Backtrack.Braces.Grammar.Halting
import Backtrack.Proofs.Braces.WellFormed
import Backtrack.Proofs.Parser.Derived

/-!
What the rules of the grammar do at one token: the events in order, then the reply.
-/
namespace Backtrack.Braces.Grammar

open Process Backtrack.Action

variable {Γ : List Type} {env : BraceEnv Γ} {s outer : OpenBraces} {i : Stream Located}
  {t : Located} {ts : List Located} {c : Char}

theorem literalBy_nil (h : i.remaining = []) :
    (tokens.literalBy Located.sameChar (brace c)).action env s i = .done .failure := by
  simp [tokens,Itemizer.literalBy,Itemizer.satisfy,Itemizer.basic,Action.check,andThen,
    item,Stream.splitFirst?_eq_none h]

theorem literalBy_cons (h : i.remaining = t :: ts) :
    (tokens.literalBy Located.sameChar (brace c)).action env s i =
      .emitAll [.item i.offset]
        (.done (if t.char = c then .success ⟨s,i.advance 1,t⟩ else .failure)) := by
  have hsame : Located.sameChar (brace c) t = decide (t.char = c) := by
    rw [Located.sameChar,brace,Bool.beq_eq_decide_eq]
    exact decide_eq_decide.mpr eq_comm
  simp [tokens,Itemizer.literalBy,Itemizer.satisfy,Itemizer.basic,Action.check,andThen,
    item,Stream.splitFirst?_eq_some h,hsame,emit_eq_emitAll]

theorem opening_nil (h : i.remaining = []) : opening.action env s i = .done .failure := by
  simp [opening,Action.bind,andThen,literalBy_nil h]

theorem opening_opens (h : i.remaining = t :: ts) (ht : t.Opens) :
    opening.action env s i =
      .emitAll [.item i.offset] (.done (.success ⟨s.push t,i.advance 1,t⟩)) := by
  simp [opening,Action.bind,andThen,literalBy_cons h,ht,updateState,Action.pure]

theorem opening_other (h : i.remaining = t :: ts) (ht : ¬ t.Opens) :
    opening.action env s i = .emitAll [.item i.offset] (.done .failure) := by
  simp [opening,Action.bind,andThen,literalBy_cons h,ht]

theorem closing_nil (h : i.remaining = []) : closing.action env s i = .done .failure := by
  simp [closing,Action.bind,andThen,literalBy_nil h]

theorem closing_closes (h : i.remaining = t :: ts) (ht : t.Closes) (hs : s.pop? = some outer) :
    closing.action env s i =
      .emitAll [.item i.offset] (.done (.success ⟨outer,i.advance 1,t⟩)) := by
  simp [closing,Action.bind,andThen,literalBy_cons h,ht,getState,hs,putState,Action.pure]

theorem closing_unmatched (h : i.remaining = t :: ts) (ht : t.Closes) (hs : s.pop? = none) :
    closing.action env s i =
      .emitAll [.item i.offset] (.done (.error (.unmatchedClose t))) := by
  simp [closing,Action.bind,andThen,literalBy_cons h,ht,getState,hs,Action.error]

theorem closing_other (h : i.remaining = t :: ts) (ht : ¬ t.Closes) :
    closing.action env s i = .emitAll [.item i.offset] (.done .failure) := by
  simp [closing,Action.bind,andThen,literalBy_cons h,ht]

theorem commit_closing_nil {payload : Mismatch} (h : i.remaining = []) :
    (Parser.commit payload closing).action env s i =
      .emitAll [.commitEscalated i.offset] (.done (.error payload)) := by
  simp [commit,orElse,announcing,closing_nil h,Action.error,emit_eq_emitAll]

theorem commit_closing_closes {payload : Mismatch} (h : i.remaining = t :: ts) (ht : t.Closes)
    (hs : s.pop? = some outer) :
    (Parser.commit payload closing).action env s i =
      .emitAll [.item i.offset] (.done (.success ⟨outer,i.advance 1,t⟩)) := by
  simp [commit,orElse,closing_closes h ht hs]

theorem normal_nil (h : i.remaining = []) :
    normal.action env s i = .emitAll [.plusBacktrack i.offset] (.done .failure) := by
  simp [normal,tokens,Itemizer.not1,Itemizer.basic,Action.bind,andThen,not0,plus,orElse,
    announcing,Process.map,opening_nil h,closing_nil h,item,Stream.splitFirst?_eq_none h,
    emit_eq_emitAll]

theorem normal_opens (h : i.remaining = t :: ts) (ht : t.Opens) :
    normal.action env s i = .emitAll [.item i.offset] (.done .failure) := by
  simp [normal,Itemizer.not1,Action.bind,andThen,not0,plus,orElse,Process.map,
    opening_opens h ht]

theorem normal_closes (h : i.remaining = t :: ts) (ht : t.Closes) (hs : s.pop? = some outer) :
    normal.action env s i =
      .emitAll [.item i.offset,.plusBacktrack i.offset,.item i.offset] (.done .failure) := by
  have ho : ¬ t.Opens := fun ho => ho.not_closes ht
  simp [normal,Itemizer.not1,Action.bind,andThen,not0,plus,orElse,announcing,Process.map,
    opening_other h ho,closing_closes h ht hs,emit_eq_emitAll]

theorem normal_unmatched (h : i.remaining = t :: ts) (ht : t.Closes) (hs : s.pop? = none) :
    normal.action env s i =
      .emitAll [.item i.offset,.plusBacktrack i.offset,.item i.offset]
        (.done (.error (.unmatchedClose t))) := by
  have ho : ¬ t.Opens := fun ho => ho.not_closes ht
  simp [normal,Itemizer.not1,Action.bind,andThen,not0,plus,orElse,announcing,Process.map,
    opening_other h ho,closing_unmatched h ht hs,emit_eq_emitAll]

theorem normal_plain (h : i.remaining = t :: ts) (ho : ¬ t.Opens) (hc : ¬ t.Closes) :
    normal.action env s i =
      .emitAll [.item i.offset,.plusBacktrack i.offset,.item i.offset,.item i.offset]
        (.done (.success ⟨s,i.advance 1,t⟩)) := by
  simp [normal,tokens,Itemizer.not1,Itemizer.basic,Action.bind,andThen,not0,plus,orElse,
    announcing,Process.map,opening_other h ho,closing_other h hc,item,
    Stream.splitFirst?_eq_some h,emit_eq_emitAll]

theorem block_nil {inner : BraceParser Γ Form} (h : i.remaining = []) :
    (block inner).action env s i = .done .failure := by
  simp [block,Action.bind,andThen,opening_nil h]

theorem block_other {inner : BraceParser Γ Form} (h : i.remaining = t :: ts) (ht : ¬ t.Opens) :
    (block inner).action env s i = .emitAll [.item i.offset] (.done .failure) := by
  simp [block,Action.bind,andThen,opening_other h ht]

/-- After the opening brace, a block is its inside and the closing brace, which has to come. -/
theorem block_opens {inner : BraceParser Γ Form} (h : i.remaining = t :: ts) (ht : t.Opens) :
    (block inner).action env s i = .emitAll [.item i.offset]
      (((inner.action env).many0.bind fun forms =>
        (Parser.action (.commit (.unmatchedOpen t) closing) env).map (Form.block t forms))
          (s.push t) (i.advance 1)) := by
  simp [block,Action.bind,andThen,opening_opens h ht]

section
variable {env : BraceEnv (Form :: Γ)} {events : List Event}

/-- A form tries a block where no character can be read. -/
theorem formBody_of_failure (h : normal.action env s i = .emitAll events (.done .failure)) :
    formBody.action env s i = .emitAll (events ++ [.plusBacktrack i.offset])
      ((block (.placeholder .here)).action env s i) := by
  simp [formBody,plus,orElse,announcing,Action.map,h,Process.map,Outcome.map,
    emit_eq_emitAll]

theorem formBody_of_success {r : Parsed OpenBraces Located Located}
    (h : normal.action env s i = .emitAll events (.done (.success r))) :
    formBody.action env s i = .emitAll events (.done (.success (r.map .char))) := by
  simp [formBody,plus,orElse,Action.map,h,Process.map,Outcome.map]

theorem formBody_of_error {e : Mismatch}
    (h : normal.action env s i = .emitAll events (.done (.error e))) :
    formBody.action env s i = .emitAll events (.done (.error e)) := by
  simp [formBody,plus,orElse,Action.map,h,Process.map,Outcome.map]

end

end Backtrack.Braces.Grammar
