import Backtrack.Proofs.Braces.Overflow
import Backtrack.Proofs.Itemizer.Tokens

/-!
Two ways to locate characters. An itemizer that tracks the place moves its state on with every
character that it takes, and so comes to the places at which the tokens of the same text stand; it
overflows exactly where they do.
-/
namespace Backtrack

variable {ρ : Rules} {ε : Type} {Γ : List Type}

namespace Itemizer

variable {σ τ : Type} {t : Itemizer ρ σ τ ε} {step : σ → τ → Except Fault σ}
  {G : Grammar ρ σ τ ε} {env : Env ρ σ τ ε Γ} {s u : σ} {i : Stream τ}

/-- As many items in a row as there are tokens in front take just these. -/
lemma Steps.items_give (h : t.Steps step) {front back : List τ} (hi : i.remaining = front ++ back)
    (hstep : front.foldlM step s = .ok u) :
    ((Parser.seq (List.replicate front.length t.item)).action env s i).Gives G
      (.ok (.success ⟨u,i.advance front.length,front⟩)) := by
  have htakes : List.Forall₂ (Action.Takes G step) (front.map fun _ _ => true)
      (front.map fun _ => t.item.action env) := by
    rw [List.forall₂_map_left_iff,List.forall₂_map_right_iff,List.forall₂_same]
    exact fun _ _ => h.item_takes
  have haccepted : Action.Accepted (front.map fun _ _ => true) front := by
    rw [Action.Accepted,List.forall₂_map_left_iff,List.forall₂_same]
    exact fun _ _ => rfl
  rw [Parser.seq_action,List.map_replicate,← List.map_const']
  exact Action.sequenceFrom_accepts htakes haccepted hi hstep []

/-- An item that is repeated takes all tokens, if the state can make a step over each. -/
lemma Steps.many0_gives (h : t.Steps step) :
    ((Parser.many0 t.item).action env s i).Gives G ((i.remaining.foldlM step s).map fun u =>
      .success ⟨u,i.advance i.length,i.remaining⟩) := by
  have hgives : (Action.many0From (t.item.action env) [] s i).Gives G _ :=
    Action.many0From_takes h.item_takes rfl []
  rw [Stream.length_remaining] at hgives
  exact hgives

end Itemizer

namespace Braces

open Position (after Counted)

variable {source : String} {G : Grammar ρ Position Char ε} {env : Env ρ Position Char ε Γ}
  {i : Stream Char}

/-- Items over the characters before a token come to the place of the token. -/
lemma items_give_token {ts : List Located} (hts : tokenize source = .ok ts)
    (hi : i.remaining = source.toList) {k : ℕ} {t : Located} (ht : ts[k]? = some t) :
    ((Parser.seq (List.replicate k Itemizer.position.item)).action env .start i).Gives G
      (.ok (.success ⟨t.position,i.advance k,(ts.take k).map Located.char⟩)) := by
  obtain ⟨hcounted,rfl⟩ := tokenize_eq_ok_iff.mp hts
  rw [getElem?_locate] at ht
  obtain ⟨c,hc,rfl⟩ := Option.map_eq_some_iff.mp ht
  have hlength : (source.toList.take k).length = k :=
    List.length_take_of_le (Nat.le_of_lt (List.getElem?_eq_some_iff.mp hc).1)
  have hway : (source.toList.take k).foldlM Position.bump .start = .ok (after _) :=
    Position.foldlM_bump_eq_ok_iff.mpr ⟨hcounted.of_prefix (List.take_prefix k _),rfl⟩
  have hgives : ((Parser.seq (List.replicate _ Itemizer.position.item)).action env .start i).Gives
      G _ := Itemizer.position_steps.items_give (hi.trans (List.take_append_drop k _).symm) hway
  rw [hlength] at hgives
  rwa [List.map_take,map_char_locate]

/-- The place after a text is that of its last token, moved on by its character. -/
lemma bump_last_token {ts : List Located} (hts : tokenize source = .ok ts) {t : Located}
    (ht : ts.getLast? = some t) : t.position.bump t.char = .ok (after source.toList) := by
  obtain ⟨hcounted,rfl⟩ := tokenize_eq_ok_iff.mp hts
  generalize source.toList = cs at *
  cases cs using List.reverseRecOn with
  | nil => cases ht
  | append_singleton cs c _ =>
    rw [locate_concat,List.getLast?_concat] at ht
    cases ht
    obtain ⟨hfront,hfits⟩ := Position.counted_concat.mp hcounted
    exact (Position.bump_after hfront.last).mpr ⟨hfits,rfl⟩

/-- The itemizer with places agrees with the tokens of the same text. In front of each token, as
many items take the characters of the tokens before it and come to its place. When the item is
repeated, it overflows exactly where no tokens are found. Otherwise it takes the whole text and ends
behind the last token. -/
theorem position_follows_tokens (G : Grammar ρ Position Char ε) (env : Env ρ Position Char ε Γ)
    (hi : i.remaining = source.toList) :
    (∀ ts, tokenize source = .ok ts → ∀ k t, ts[k]? = some t →
      ((Parser.seq (List.replicate k Itemizer.position.item)).action env .start i).Gives G
        (.ok (.success ⟨t.position,i.advance k,(ts.take k).map Located.char⟩))) ∧
    (((Parser.many0 Itemizer.position.item).action env .start i).Gives G (.error .overflow) ↔
      tokenize source = .error .overflow) ∧
    (tokenize source ≠ .error .overflow → ∃ ts p, tokenize source = .ok ts ∧
      ((Parser.many0 Itemizer.position.item).action env .start i).Gives G
        (.ok (.success ⟨p,i.advance i.length,source.toList⟩)) ∧
      (i.advance i.length).remaining = [] ∧
      (ts = [] → p = .start) ∧ ∀ t, ts.getLast? = some t → t.position.bump t.char = .ok p) := by
  have hgives : ((Parser.many0 Itemizer.position.item).action env .start i).Gives G _ :=
    Itemizer.position_steps.many0_gives
  rw [hi] at hgives
  refine ⟨fun ts hts k t ht => items_give_token hts hi ht,?_,fun hno => ?_⟩
  · rw [tokenize_eq_error_iff,← not_not (a := Position.TooLong _),← Position.counted_iff,
      ← Position.foldlM_bump_eq_error_iff]
    constructor
    · intro h
      exact eq_error_of_map (hgives.unique h)
    · intro h
      rwa [h] at hgives
  · have hcounted : Counted source.toList := by
      by_contra hnot
      exact hno (tokenize_eq_error_iff.mpr ⟨not_not.mp (mt Position.counted_iff.mpr hnot),rfl⟩)
    have hts := tokenize_eq_ok_iff.mpr ⟨hcounted,rfl⟩
    have hway := Position.foldlM_bump_eq_ok_iff.mpr ⟨hcounted,rfl⟩
    rw [hway] at hgives
    refine ⟨_,_,hts,hgives,?_,fun hnil => ?_,fun t ht => bump_last_token hts ht⟩
    · rw [Stream.remaining_advance,← Stream.length_remaining,List.drop_length]
    · rw [← map_char_locate source.toList,hnil]
      exact Position.after_nil

/-- A line break is taken before the last token, which stands in the second line. -/
theorem position_follows_tokens_of_lines :
    let i : Stream Char := .ofList 0 ['a','\n','b']
    i.remaining = "a\nb".toList ∧
      tokenize "a\nb" = .ok [⟨'a',⟨1,1⟩⟩,⟨'\n',⟨1,2⟩⟩,⟨'b',⟨2,1⟩⟩] ∧
      ((Parser.seq (List.replicate 2 Itemizer.position.item)).action
        (.empty : Env Rules.none Position Char ℕ []) .start i).Gives .none
          (.ok (.success ⟨⟨2,1⟩,i.advance 2,['a','\n']⟩)) ∧
      ((Parser.many0 Itemizer.position.item).action
        (.empty : Env Rules.none Position Char ℕ []) .start i).Gives .none
          (.ok (.success ⟨⟨2,2⟩,i.advance 3,['a','\n','b']⟩)) := by
  intro i
  have hi : i.remaining = "a\nb".toList := by decide
  have hts : tokenize "a\nb" = .ok [⟨'a',⟨1,1⟩⟩,⟨'\n',⟨1,2⟩⟩,⟨'b',⟨2,1⟩⟩] := by decide
  obtain ⟨hseq,-,hmany⟩ :=
    position_follows_tokens .none (.empty : Env Rules.none Position Char ℕ []) hi
  obtain ⟨ts,p,hts',hgives,-,-,hlast⟩ := hmany (by rw [hts]; simp)
  cases hts.symm.trans hts'
  have hp : (⟨2,1⟩ : Position).bump 'b' = .ok p := hlast _ rfl
  cases hp
  exact ⟨hi,hts,hseq _ hts 2 _ rfl,hgives⟩

end Braces
end Backtrack
