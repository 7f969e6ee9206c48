import Backtrack.Proofs.Braces.Findings
import Backtrack.Proofs.Braces.Tokens

/-!
Checks of two sources in a row. The grammar sees characters and no places, so a check of the second
source finds the same behind the first one, moved to where that ends. `check_append` puts this
together with the division of a source into tokens.
-/
namespace Backtrack.Braces

/-! The same tokens at other places. -/
section

variable {f : Located → Located}

/-- Tokens keep their characters. -/
def Located.Keeps (f : Located → Located) : Prop := ∀ t, (f t).char = t.char

lemma Located.keeps_moved (origin : Position) : Located.Keeps (.moved origin) := fun _ => rfl

namespace Form

/-- The same form with other tokens. -/
def map (f : Located → Located) : Form → Form
  | .char t => .char (f t)
  | .block opening inner closing => .block (f opening) (inner.map (map f)) (f closing)

lemma tokens_map (f : Located → Located) (forms : List Form) :
    tokens (forms.map (map f)) = (tokens forms).map f := by
  induction forms using list_induction with
  | nil => simp
  | char t forms ih => simp [map,ih]
  | block opening inner closing forms ihInner ih => simp [map,ihInner,ih]

lemma tokens_append (forms others : List Form) :
    tokens (forms ++ others) = tokens forms ++ tokens others := by
  induction forms with
  | nil => simp
  | cons form forms ih =>
    rw [List.cons_append,tokens_cons,ih,← List.append_assoc,← tokens_cons]

lemma WellFormed.map {forms : List Form} (hf : Located.Keeps f) (h : WellFormed forms) :
    WellFormed (forms.map (.map f)) := by
  induction h with
  | nil => exact .nil
  | @char t _ ho hc _ ih =>
    rw [Located.Opens,← hf t] at ho
    rw [Located.Closes,← hf t] at hc
    rw [List.map_cons,Form.map]
    exact .char ho hc ih
  | @block opening closing _ _ ho hc _ _ ihInner ih =>
    rw [Located.Opens,← hf opening] at ho
    rw [Located.Closes,← hf closing] at hc
    rw [List.map_cons,Form.map]
    exact .block ho hc ihInner ih

lemma WellFormed.append {forms others : List Form} (h : WellFormed forms)
    (h' : WellFormed others) : WellFormed (forms ++ others) := by
  induction h with
  | nil => exact h'
  | char ho hc _ ih => exact .char ho hc ih
  | block ho hc hinner _ _ ih => exact .block ho hc hinner ih

end Form

/-- The same mismatch of another brace. -/
def Mismatch.map (f : Located → Located) : Mismatch → Mismatch
  | .unmatchedOpen brace => .unmatchedOpen (f brace)
  | .unmatchedClose brace => .unmatchedClose (f brace)

/-- The same end of a scan of other tokens. -/
def Scan.map (f : Located → Located) : Scan → Scan
  | .finished opened => .finished (opened.map f)
  | .stopped brace after => .stopped (f brace) (after.map f)

/-- A scan looks at characters alone. -/
theorem scan_map (hf : Located.Keeps f) (opened ts : List Located) :
    scan (opened.map f) (ts.map f) = (scan opened ts).map f := by
  induction ts generalizing opened with
  | nil => rfl
  | cons t ts ih =>
    rw [List.map_cons]
    by_cases ho : t.Opens
    · have ho' : (f t).Opens := (hf t).trans ho
      rw [scan_opens ho,scan_opens ho']
      exact ih (t :: opened)
    · have ho' : ¬ (f t).Opens := by rwa [Located.Opens,hf t]
      by_cases hc : t.Closes
      · have hc' : (f t).Closes := (hf t).trans hc
        cases opened with
        | nil =>
          rw [scan_closes_nil hc,List.map_nil,scan_closes_nil hc']
          rfl
        | cons brace outer =>
          rw [scan_closes_cons hc,List.map_cons,scan_closes_cons hc']
          exact ih outer
      · have hc' : ¬ (f t).Closes := by rwa [Located.Closes,hf t]
        rw [scan_plain ho hc,scan_plain ho' hc']
        exact ih opened

end

namespace Finds

variable {ts front back : List Located} {forms : List Form} {brace : Located}
  {result : Except Mismatch (List Form)} {f : Located → Located}

/-- The same is found out about the same characters at other places. -/
theorem map (hf : Located.Keeps f) (h : Finds ts result) :
    Finds (ts.map f) ((result.map (List.map (.map f))).mapError (.map f)) := by
  cases h with
  | balanced hwf h =>
    refine .balanced (hwf.map hf) ?_
    rw [h,Form.tokens_map]
  | unopened h =>
    have hscan := scan_map hf [] ts
    rw [h] at hscan
    exact .unopened hscan
  | unclosed h =>
    have hscan := scan_map hf [] ts
    rw [h] at hscan
    exact .unclosed hscan

/-- Behind well-formed forms, there is to find out what there is to find out without them. -/
theorem append (h : Finds front (.ok forms)) (hback : Finds back result) :
    Finds (front ++ back) (result.map (forms ++ ·)) := by
  obtain ⟨hf,htokens⟩ := ok_iff.mp h
  have hscan : scan [] (front ++ back) = scan [] back := by
    rw [htokens,hf.scan_tokens]
  cases hback with
  | balanced hg htokens' =>
    refine .balanced (hf.append hg) ?_
    rw [htokens,htokens',Form.tokens_append]
  | unopened h => exact .unopened (hscan.trans h)
  | unclosed h => exact .unclosed (hscan.trans h)

/-- Whatever comes behind a closing brace without a partner changes nothing. -/
theorem append_of_unopened (h : Finds front (.error (.unmatchedClose brace)))
    (back : List Located) : Finds (front ++ back) (.error (.unmatchedClose brace)) := by
  obtain ⟨after,hscan⟩ := unmatchedClose_iff.mp h
  have hall : scan [] (front ++ back) = .stopped brace (after ++ back) := by
    rw [scan_append_tokens,hscan]
  exact .unopened hall

end Finds

open Position (after)

/-- Where the tokens of two sources in a row can be counted, both sources can be checked, and so can
the whole. Behind a balanced source, a check finds the forms and the mismatches of the second source
at their places in the whole. A closing brace without a partner in the first source is the mismatch
of the whole. -/
theorem check_append {a z : String} (h : ∃ ts, tokenize (a ++ z) = .ok ts) :
    ∃ front back whole, check a = .ok front ∧ check z = .ok back ∧ check (a ++ z) = .ok whole ∧
      (∀ forms others, front.result = .ok forms → back.result = .ok others →
        whole.result = .ok (forms ++ others.map (.map (.moved (after a.toList))))) ∧
      (∀ forms mismatch, front.result = .ok forms → back.result = .error mismatch →
        whole.result = .error (mismatch.map (.moved (after a.toList)))) ∧
      ∀ brace, front.result = .error (.unmatchedClose brace) →
        whole.result = .error (.unmatchedClose brace) := by
  obtain ⟨ts,hts⟩ := h
  obtain ⟨hcounted,htokens⟩ := tokenize_eq_ok_iff.mp hts
  rw [String.toList_append] at hcounted htokens
  have hfront := tokenize_eq_ok_iff.mpr ⟨hcounted.of_prefix (List.prefix_append ..),rfl⟩
  have hback := tokenize_eq_ok_iff.mpr ⟨hcounted.of_suffix,rfl⟩
  obtain ⟨front,_,_,hcheckFront,hfindsFront,-⟩ := check_finds hfront
  obtain ⟨back,_,_,hcheckBack,hfindsBack,-⟩ := check_finds hback
  obtain ⟨whole,_,_,hcheckWhole,hfindsWhole,-⟩ := check_finds hts
  rw [htokens,locate_append] at hfindsWhole
  have hmoved := hfindsBack.map (Located.keeps_moved (after a.toList))
  refine ⟨front,back,whole,hcheckFront,hcheckBack,hcheckWhole,?_,?_,?_⟩
  · intro forms others hforms hothers
    rw [hforms] at hfindsFront
    rw [hothers] at hmoved
    exact hfindsWhole.unique (hfindsFront.append hmoved)
  · intro forms mismatch hforms hmismatch
    rw [hforms] at hfindsFront
    rw [hmismatch] at hmoved
    exact hfindsWhole.unique (hfindsFront.append hmoved)
  · intro brace hbrace
    rw [hbrace] at hfindsFront
    exact hfindsWhole.unique (hfindsFront.append_of_unopened _)

/-- A block over two lines, and behind it a character, or a closing brace as well; the same closing
brace in front of the character. -/
theorem check_append_of_block :
    (∃ whole, check ("\x7b\n\x7d" ++ "b") = .ok whole ∧ whole.result = .ok
      [.block ⟨'\x7b',⟨1,1⟩⟩ [.char ⟨'\n',⟨1,2⟩⟩] ⟨'\x7d',⟨2,1⟩⟩,.char ⟨'b',⟨2,2⟩⟩]) ∧
    (∃ whole, check ("\x7b\n\x7d" ++ "b\x7d") = .ok whole ∧
      whole.result = .error (.unmatchedClose ⟨'\x7d',⟨2,3⟩⟩)) ∧
    ∃ whole, check ("b\x7d" ++ "b") = .ok whole ∧
      whole.result = .error (.unmatchedClose ⟨'\x7d',⟨1,2⟩⟩) := by
  have hblock : ∃ checked, check "\x7b\n\x7d" = .ok checked ∧ checked.result =
      .ok [.block ⟨'\x7b',⟨1,1⟩⟩ [.char ⟨'\n',⟨1,2⟩⟩] ⟨'\x7d',⟨2,1⟩⟩] := by
    have hts : tokenize "\x7b\n\x7d" =
        .ok [⟨'\x7b',⟨1,1⟩⟩,⟨'\n',⟨1,2⟩⟩,⟨'\x7d',⟨2,1⟩⟩] := by decide
    have hf : Form.WellFormed [.block ⟨'\x7b',⟨1,1⟩⟩ [.char ⟨'\n',⟨1,2⟩⟩] ⟨'\x7d',⟨2,1⟩⟩] :=
      .block (by decide) (by decide) (.char (by decide) (by decide) .nil) .nil
    exact (check_result_iff hts).mpr (.balanced hf (by simp))
  have hchar : ∃ checked, check "b" = .ok checked ∧
      checked.result = .ok [.char ⟨'b',⟨1,1⟩⟩] := by
    have hts : tokenize "b" = .ok [⟨'b',⟨1,1⟩⟩] := by decide
    have hf : Form.WellFormed [.char ⟨'b',⟨1,1⟩⟩] := .char (by decide) (by decide) .nil
    exact (check_result_iff hts).mpr (.balanced hf (by simp))
  have hclose : ∃ checked, check "b\x7d" = .ok checked ∧
      checked.result = .error (.unmatchedClose ⟨'\x7d',⟨1,2⟩⟩) := by
    have hts : tokenize "b\x7d" = .ok [⟨'b',⟨1,1⟩⟩,⟨'\x7d',⟨1,2⟩⟩] := by decide
    have hscan : scan [] [⟨'b',⟨1,1⟩⟩,⟨'\x7d',⟨1,2⟩⟩] = .stopped ⟨'\x7d',⟨1,2⟩⟩ [] := by decide
    exact (check_result_iff hts).mpr (.unopened hscan)
  obtain ⟨block,hcheckBlock,hresultBlock⟩ := hblock
  obtain ⟨char,hcheckChar,hresultChar⟩ := hchar
  obtain ⟨close,hcheckClose,hresultClose⟩ := hclose
  refine ⟨?_,?_,?_⟩
  · have hts : ∃ ts, tokenize ("\x7b\n\x7d" ++ "b") = .ok ts :=
      ⟨[⟨'\x7b',⟨1,1⟩⟩,⟨'\n',⟨1,2⟩⟩,⟨'\x7d',⟨2,1⟩⟩,⟨'b',⟨2,2⟩⟩],by decide⟩
    obtain ⟨front,back,whole,hfront,hback,hwhole,hforms,-,-⟩ := check_append hts
    obtain rfl := Except.ok.inj (hcheckBlock.symm.trans hfront)
    obtain rfl := Except.ok.inj (hcheckChar.symm.trans hback)
    have hresult := hforms _ _ hresultBlock hresultChar
    simp only [List.map_cons,List.map_nil,Form.map] at hresult
    exact ⟨whole,hwhole,hresult⟩
  · have hts : ∃ ts, tokenize ("\x7b\n\x7d" ++ "b\x7d") = .ok ts :=
      ⟨[⟨'\x7b',⟨1,1⟩⟩,⟨'\n',⟨1,2⟩⟩,⟨'\x7d',⟨2,1⟩⟩,⟨'b',⟨2,2⟩⟩,⟨'\x7d',⟨2,3⟩⟩],by decide⟩
    obtain ⟨front,back,whole,hfront,hback,hwhole,-,hmismatch,-⟩ := check_append hts
    obtain rfl := Except.ok.inj (hcheckBlock.symm.trans hfront)
    obtain rfl := Except.ok.inj (hcheckClose.symm.trans hback)
    exact ⟨whole,hwhole,hmismatch _ _ hresultBlock hresultClose⟩
  · have hts : ∃ ts, tokenize ("b\x7d" ++ "b") = .ok ts :=
      ⟨[⟨'b',⟨1,1⟩⟩,⟨'\x7d',⟨1,2⟩⟩,⟨'b',⟨1,3⟩⟩],by decide⟩
    obtain ⟨front,_,whole,hfront,-,hwhole,-,-,hclosing⟩ := check_append hts
    obtain rfl := Except.ok.inj (hcheckClose.symm.trans hfront)
    exact ⟨whole,hwhole,hclosing _ hresultClose⟩

end Backtrack.Braces
