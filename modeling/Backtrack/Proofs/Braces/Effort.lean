import Backtrack.Proofs.Braces.Counts
import Mathlib.Tactic.Ring

/-!
How much is read twice. A check tries every token a fixed number of times, however deep it stands
and whatever follows, so its backtracking is linear. `check_looks` counts the events of a check by
their places and by their kinds.
-/
namespace Backtrack.Braces
namespace Grammar

/-- How often a token is tried, by how the scan of the tokens before it ends: not at all where that
has stopped before. -/
def looks : Scan → Located → ℕ
  | .stopped _ _, _ => 0
  | .finished opened, t =>
    if t.Opens then 2
    else if t.Closes then
      if opened = [] then 2 else 4
    else 3

/-- How many events have a message. -/
def tally (message : String) (events : List Event) : ℕ :=
  events.countP fun event => event.message = message

@[simp] theorem tally_nil (message : String) : tally message [] = 0 := rfl

@[simp] theorem tally_cons (message : String) (event : Event) (events : List Event) :
    tally message (event :: events) =
      tally message events + if event.message = message then 1 else 0 := by
  simp [tally,List.countP_cons]

lemma tally_append (message : String) (before after : List Event) :
    tally message (before ++ after) = tally message before + tally message after :=
  List.countP_append

variable {count m offset place i : ℕ} {outer rest : List ℕ} {opened ts : List Located}
  {t : Located} {message : String}

/-! The turn of one token, in the pass that tells the events and in the scan. -/
section

lemma eventsFrom_of_turn_none (h : turn count outer t = none) :
    eventsFrom count outer offset (t :: ts) = eventsAt count outer offset t := by
  rw [eventsFrom,h,List.append_nil]

lemma eventsFrom_of_turn_some (h : turn count outer t = some (m,rest)) :
    eventsFrom count outer offset (t :: ts) =
      eventsAt count outer offset t ++ eventsFrom m rest (offset + 1) ts := by
  rw [eventsFrom,h]

/-- A pass ends where the scan stops, with as many sequences around as there are open braces. -/
lemma scan_of_turn_none (h : turn count outer t = none) (hlen : outer.length = opened.length) :
    scan opened (t :: ts) = .stopped t ts := by
  by_cases ho : t.Opens
  · rw [turn,if_pos ho] at h
    cases h
  · by_cases hc : t.Closes
    · rw [turn,if_neg ho,if_pos hc,Option.map_eq_none_iff,List.head?_eq_none_iff] at h
      subst h
      obtain rfl := List.length_eq_zero_iff.mp hlen.symm
      exact scan_closes_nil hc
    · rw [turn,if_neg ho,if_neg hc] at h
      cases h

lemma scan_of_turn_some (h : turn count outer t = some (m,rest))
    (hlen : outer.length = opened.length) :
    ∃ left, rest.length = left.length ∧ ∀ ts, scan opened (t :: ts) = scan left ts := by
  by_cases ho : t.Opens
  · rw [turn,if_pos ho] at h
    cases h
    exact ⟨t :: opened,by simp [hlen],fun ts => scan_opens ho⟩
  · by_cases hc : t.Closes
    · rw [turn,if_neg ho,if_pos hc] at h
      cases outer with
      | nil => cases h
      | cons m outer =>
        cases h
        cases opened with
        | nil => simp at hlen
        | cons brace below => exact ⟨below,by simpa using hlen,fun ts => scan_closes_cons hc⟩
    · rw [turn,if_neg ho,if_neg hc] at h
      cases h
      exact ⟨opened,hlen,fun ts => scan_plain ho hc⟩

lemma count_eventsAt (hlen : outer.length = opened.length) :
    (eventsAt count outer offset t).count (.item place) =
      if offset = place then looks (.finished opened) t else 0 := by
  have hempty : outer = [] ↔ opened = [] := by
    rw [← List.length_eq_zero_iff,hlen,List.length_eq_zero_iff]
  simp only [eventsAt,looks,hempty]
  by_cases hplace : offset = place
  · split_ifs <;> simp [hplace]
  · split_ifs <;> simp [hplace]

/-- Where the pass goes on, the kinds of the events at a token depend on the token alone. -/
lemma tally_eventsAt (h : turn count outer t = some (m,rest)) :
    tally message (eventsAt count outer offset t) = tally message (eventsAt 0 [0] 0 t) := by
  rw [eventsAt,eventsAt]
  by_cases ho : t.Opens
  · rw [if_pos ho,if_pos ho]
    rfl
  · by_cases hc : t.Closes
    · have houter : outer ≠ [] := by
        rintro rfl
        rw [turn,if_neg ho,if_pos hc] at h
        cases h
      rw [if_neg ho,if_neg ho,if_pos hc,if_pos hc,if_neg houter,if_neg (List.cons_ne_nil 0 [])]
      rfl
    · rw [if_neg ho,if_neg ho,if_neg hc,if_neg hc]
      rfl

end

/-! A whole pass, by induction on its tokens. -/

lemma count_item_before (hlen : outer.length = opened.length) (h : place < offset) :
    (eventsFrom count outer offset ts).count (.item place) = 0 := by
  induction ts generalizing count outer offset opened with
  | nil => cases outer <;> simp [eventsFrom]
  | cons t ts ih =>
    have hhere : (eventsAt count outer offset t).count (.item place) = 0 := by
      rw [count_eventsAt hlen,if_neg (by omega)]
    cases hturn : turn count outer t with
    | none => rw [eventsFrom_of_turn_none hturn,hhere]
    | some next =>
      obtain ⟨m,rest⟩ := next
      obtain ⟨left,hleft,-⟩ := scan_of_turn_some hturn hlen
      rw [eventsFrom_of_turn_some hturn,List.count_append,hhere,ih hleft (by omega)]

/-- In a pass, every token is tried as often as the scan of the tokens before it says. -/
theorem count_item_eventsFrom (hlen : outer.length = opened.length) (ht : ts[i]? = some t) :
    (eventsFrom count outer offset ts).count (.item (offset + i)) =
      looks (scan opened (ts.take i)) t := by
  induction ts generalizing count outer offset opened i with
  | nil => simp at ht
  | cons u ts ih =>
    cases i with
    | zero =>
      obtain rfl : u = t := by simpa using ht
      have hhere : (eventsAt count outer offset u).count (.item offset) =
          looks (.finished opened) u := by
        rw [count_eventsAt hlen,if_pos rfl]
      rw [Nat.add_zero,List.take_zero,scan_nil]
      cases hturn : turn count outer u with
      | none => rw [eventsFrom_of_turn_none hturn,hhere]
      | some next =>
        obtain ⟨m,rest⟩ := next
        obtain ⟨left,hleft,-⟩ := scan_of_turn_some hturn hlen
        rw [eventsFrom_of_turn_some hturn,List.count_append,hhere,
          count_item_before hleft (Nat.lt_succ_self offset),Nat.add_zero]
    | succ i =>
      have hhere : (eventsAt count outer offset u).count (.item (offset + (i + 1))) = 0 := by
        rw [count_eventsAt hlen,if_neg (by omega)]
      rw [List.take_succ_cons]
      cases hturn : turn count outer u with
      | none =>
        rw [eventsFrom_of_turn_none hturn,hhere,scan_of_turn_none hturn hlen]
        rfl
      | some next =>
        obtain ⟨m,rest⟩ := next
        obtain ⟨left,hleft,hscan⟩ := scan_of_turn_some hturn hlen
        have hplace : offset + (i + 1) = offset + 1 + i := by omega
        rw [eventsFrom_of_turn_some hturn,List.count_append,hhere,hscan,hplace,
          ih hleft (by simpa using ht),Nat.zero_add]

/-- Where all braces are closed, the kinds of the events of a pass are those at each of its tokens,
and those at the end. -/
theorem tally_eventsFrom (hlen : outer.length = opened.length)
    (hscan : scan opened ts = .finished []) :
    tally message (eventsFrom count outer offset ts) =
      (ts.map fun t => tally message (eventsAt 0 [0] 0 t)).sum +
        tally message [.plusBacktrack 0,.plusBacktrack 0,.many0Done 0 0] := by
  induction ts generalizing count outer offset opened with
  | nil =>
    obtain rfl : opened = [] := by simpa using hscan
    obtain rfl := List.length_eq_zero_iff.mp hlen
    rw [List.map_nil,List.sum_nil,Nat.zero_add]
    rfl
  | cons t ts ih =>
    cases hturn : turn count outer t with
    | none => simp [scan_of_turn_none hturn hlen] at hscan
    | some next =>
      obtain ⟨m,rest⟩ := next
      obtain ⟨left,hleft,hgoes⟩ := scan_of_turn_some hturn hlen
      rw [hgoes] at hscan
      rw [eventsFrom_of_turn_some hturn,tally_append,tally_eventsAt hturn,ih hleft hscan,
        List.map_cons,List.sum_cons,Nat.add_assoc]

/-- A sum over tokens by their kinds. -/
lemma sum_by_kind {weight : Located → ℕ} {plain opening closing : ℕ}
    (hp : ∀ t : Located, ¬ t.Opens → ¬ t.Closes → weight t = plain)
    (ho : ∀ t : Located, t.Opens → weight t = opening)
    (hc : ∀ t : Located, t.Closes → weight t = closing) (ts : List Located) :
    (ts.map weight).sum = plain * others (ts.map Located.char) +
      opening * (ts.map Located.char).count '\x7b' +
        closing * (ts.map Located.char).count '\x7d' := by
  induction ts with
  | nil => simp [others]
  | cons t ts ih =>
    simp only [List.map_cons,List.sum_cons,ih,others_cons,List.count_cons]
    by_cases h₁ : t.Opens
    · rw [ho t h₁]
      simp only [Located.Opens] at h₁
      simp [h₁]
      ring
    · by_cases h₂ : t.Closes
      · rw [hc t h₂]
        simp only [Located.Closes] at h₂
        simp [h₂]
        ring
      · rw [hp t h₁ h₂]
        simp only [Located.Opens,Located.Closes] at h₁ h₂
        simp [h₁,h₂]
        ring

/-- The kinds of the events of a pass over well-formed forms, where every block has two braces. -/
lemma tally_of_wellFormed {forms : List Form} (hf : Form.WellFormed forms) (message : String) :
    tally message (eventsFrom 0 [] 0 (Form.tokens forms)) =
      tally message [.item 0,.plusBacktrack 0,.item 0,.item 0] * (Summary.of forms).chars +
        tally message [.item 0,.plusBacktrack 0,.item 0] * (Summary.of forms).blocks +
          tally message [.item 0,.plusBacktrack 0,.item 0,.plusBacktrack 0,.item 0,
            .many0Done 0 0,.item 0] * (Summary.of forms).blocks +
              tally message [.plusBacktrack 0,.plusBacktrack 0,.many0Done 0 0] := by
  have hscan : scan [] (Form.tokens forms) = .finished [] := Finds.scan_of_ok (.balanced hf rfl)
  have hclosing : (Summary.of forms).blocks = (Form.characters forms).count '\x7d' := by
    rw [hf.summary_blocks,hf.count_closing]
  rw [tally_eventsFrom rfl hscan,hf.summary_chars]
  congr 1
  nth_rewrite 2 [hclosing]
  rw [hf.summary_blocks]
  apply sum_by_kind
  · intro t ho hc
    rw [eventsAt,if_neg ho,if_neg hc]
  · intro t ho
    rw [eventsAt,if_pos ho]
  · intro t hc
    have ho : ¬ t.Opens := fun ho => ho.not_closes hc
    rw [eventsAt,if_neg ho,if_pos hc,if_neg (List.cons_ne_nil 0 [])]

/-- What is reported around a pass. -/
lemma tally_around (begin ran finished : Event) (pass : List Event) :
    tally message (begin :: ran :: (pass ++ [finished])) =
      tally message [begin,ran,finished] + tally message pass := by
  simp only [tally_cons,tally_append,tally_nil]
  omega

/-- A check tries a token three times if it is no brace, twice if it is an opening brace, and four
times if it closes an open one. A closing brace where nothing is open is tried twice; there the
check ends, and no token after it is tried. Where all braces match, this gives the numbers of events
of each kind: nothing is tried more often because it stands deeper, and no failure is escalated. -/
theorem check_looks {source : String} {ts : List Located} (hts : tokenize source = .ok ts) :
    ∃ checked, check source = .ok checked ∧
      (∀ i t, ts[i]? = some t →
        checked.events.count (.item i) = looks (scan [] (ts.take i)) t) ∧
      (∀ brace, checked.result = .error (.unmatchedClose brace) ↔
        ∃ i, ts[i]? = some brace ∧ brace.Closes ∧ scan [] (ts.take i) = .finished []) ∧
      ∀ forms, checked.result = .ok forms →
        let plain := source.toList.countP fun c => c ≠ '\x7b' ∧ c ≠ '\x7d'
        let blocks := (Summary.of forms).blocks
        tally "item" checked.events = 3 * plain + 6 * blocks ∧
        tally "plus: backtrack" checked.events = plain + 3 * blocks + 2 ∧
        tally "many0: done" checked.events = blocks + 1 ∧
        tally "commit: failure escalated to error" checked.events = 0 := by
  obtain ⟨checked,verdict,consumed,hcheck,hfinds,hevents⟩ := check_finds hts
  refine ⟨checked,hcheck,?_,?_,?_⟩
  · intro i t ht
    have hcount : (eventsFrom 0 [] 0 ts).count (.item (0 + i)) = looks (scan [] (ts.take i)) t :=
      count_item_eventsFrom rfl ht
    rw [hevents,← hcount]
    simp
  · intro brace
    rw [← exists_stopped_iff,← Finds.unmatchedClose_iff]
    exact ⟨fun h => h ▸ hfinds,fun h => hfinds.unique h⟩
  · intro forms h plain blocks
    rw [h] at hfinds
    obtain ⟨hf,rfl⟩ := Finds.ok_iff.mp hfinds
    obtain ⟨-,htext⟩ := characters_of_check hcheck h
    have hplain : (Summary.of forms).chars = plain := by
      rw [hf.summary_chars,htext]
      rfl
    have hkinds (message : String) : tally message checked.events =
        tally message [.check (Form.tokens forms).length,.run (Form.tokens forms).length,
          .runFinished verdict consumed] +
            tally message (eventsFrom 0 [] 0 (Form.tokens forms)) := by
      rw [hevents,tally_around]
    have hblocks : (Summary.of forms).blocks = blocks := rfl
    simp only [tally_of_wellFormed hf,hplain,hblocks] at hkinds
    refine ⟨?_,?_,?_,?_⟩
    · rw [hkinds]
      simp [Event.message]
      omega
    · rw [hkinds]
      simp [Event.message]
      omega
    · rw [hkinds]
      simp [Event.message]
    · rw [hkinds]
      simp [Event.message]

/-- The inner block is tried no more often than the outer one, and the closing brace that is left
over twice. -/
theorem check_looks_of_sources :
    (∃ checked, check "\x7ba\x7b\x7d\x7d" = .ok checked ∧
      (List.range 5).map (fun i => checked.events.count (.item i)) = [2,3,2,4,4] ∧
      tally "item" checked.events = 15 ∧ tally "plus: backtrack" checked.events = 9 ∧
      tally "many0: done" checked.events = 3) ∧
    ∃ checked, check "\x7b\x7d\x7da" = .ok checked ∧
      checked.result = .error (.unmatchedClose ⟨'\x7d',⟨1,3⟩⟩) ∧
      (List.range 4).map (fun i => checked.events.count (.item i)) = [2,4,2,0] := by
  constructor
  · have hts : tokenize "\x7ba\x7b\x7d\x7d" = .ok [⟨'\x7b',⟨1,1⟩⟩,⟨'a',⟨1,2⟩⟩,⟨'\x7b',⟨1,3⟩⟩,
        ⟨'\x7d',⟨1,4⟩⟩,⟨'\x7d',⟨1,5⟩⟩] := by decide
    have hf : Form.WellFormed [.block ⟨'\x7b',⟨1,1⟩⟩
        [.char ⟨'a',⟨1,2⟩⟩,.block ⟨'\x7b',⟨1,3⟩⟩ [] ⟨'\x7d',⟨1,4⟩⟩] ⟨'\x7d',⟨1,5⟩⟩] :=
      .block (by decide) (by decide)
        (.char (by decide) (by decide) (.block (by decide) (by decide) .nil .nil)) .nil
    obtain ⟨checked,hcheck,hlooks,-,hkinds⟩ := check_looks hts
    obtain ⟨checked',hcheck',h⟩ := (check_result_iff hts).mpr (.balanced hf (by simp))
    obtain rfl := Except.ok.inj (hcheck.symm.trans hcheck')
    obtain ⟨hitem,hbacktrack,hdone,-⟩ := hkinds _ h
    have hblocks := hf.summary_blocks
    simp only [Form.characters_block,Form.characters_char,Form.characters_nil] at hblocks
    rw [hblocks] at hitem hbacktrack hdone
    have h₀ := hlooks 0 _ rfl
    have h₁ := hlooks 1 _ rfl
    have h₂ := hlooks 2 _ rfl
    have h₃ := hlooks 3 _ rfl
    have h₄ := hlooks 4 _ rfl
    refine ⟨checked,hcheck,?_,hitem.trans (by decide),hbacktrack.trans (by decide),
      hdone.trans (by decide)⟩
    simp [List.range_succ,h₀,h₁,h₂,h₃,h₄]
    decide
  · have hts : tokenize "\x7b\x7d\x7da" = .ok [⟨'\x7b',⟨1,1⟩⟩,⟨'\x7d',⟨1,2⟩⟩,⟨'\x7d',⟨1,3⟩⟩,
        ⟨'a',⟨1,4⟩⟩] := by decide
    obtain ⟨checked,hcheck,hlooks,hunmatched,-⟩ := check_looks hts
    have h₀ := hlooks 0 _ rfl
    have h₁ := hlooks 1 _ rfl
    have h₂ := hlooks 2 _ rfl
    have h₃ := hlooks 3 _ rfl
    refine ⟨checked,hcheck,(hunmatched _).mpr ⟨2,rfl,by decide,by decide⟩,?_⟩
    simp [List.range_succ,h₀,h₁,h₂,h₃]
    decide

end Grammar
end Backtrack.Braces
