import Backtrack.Proofs.Itemizer.Tracking
import Backtrack.Proofs.Position.Limits

/-!
One grammar over several itemizers. What is written over an itemizer, and does not look at the
state, parses in the same way whether the state is left alone, counts tokens or tracks places.
-/
namespace Backtrack

variable {ρ : Rules} {σ σ' τ ε : Type}

/-- What a grammar over itemizers is built from: an item of each of them, raw items, and the ways to
read and set the tokens. -/
inductive Itemizer.Pairs (t : Itemizer ρ σ τ ε) (t' : Itemizer ρ σ' τ ε) : {Γ : List Type} →
    {α : Type} → (α → α → Prop) → Parser ρ σ τ ε Γ α → Parser ρ σ' τ ε Γ α → Prop
  | item {Γ} : Pairs t t' Eq (t.item : Parser ρ σ τ ε Γ τ) t'.item
  | rawItem {Γ} : Pairs t t' Eq (.item : Parser ρ σ τ ε Γ τ) .item
  | get {Γ} : Pairs t t' Eq (.get : Parser ρ σ τ ε Γ (Stream τ)) .get
  | put {Γ} (tokens : Stream τ) :
      Pairs t t' Eq (.put tokens : Parser ρ σ τ ε Γ Unit) (.put tokens)

def Itemizer.basis (t : Itemizer ρ σ τ ε) (t' : Itemizer ρ σ' τ ε) : Basis ρ σ σ' τ ε where
  leaf := t.Pairs t'
  errors := Eq
  outs _ := Eq
  rewinds := True

/-- A grammar and a parser that are written over an itemizer, and are built in the same way whatever
itemizer they are given. -/
structure Design (ρ : Rules) (τ ε α : Type) where
  rules : {σ : Type} → Itemizer ρ σ τ ε → Grammar ρ σ τ ε
  parser : {σ : Type} → Itemizer ρ σ τ ε → Parser ρ σ τ ε [] α
  rules_alike : ∀ {σ σ' : Type} (t : Itemizer ρ σ τ ε) (t' : Itemizer ρ σ' τ ε),
    Grammar.Alike (t.basis t') (rules t) (rules t')
  parser_alike : ∀ {σ σ' : Type} (t : Itemizer ρ σ τ ε) (t' : Itemizer ρ σ' τ ε),
    Parser.Alike (t.basis t') Ties.nil Eq (parser t) (parser t')

/-- What is seen of a reply when the state is not looked at. -/
def Reply.stateless {α : Type} : Reply σ τ ε α → Outcome (Stream τ × α) ε :=
  Outcome.map fun r => (r.rest,r.value)

/-- The parser over this itemizer ends with this result, its state not looked at, after these
events. -/
def Design.Shows {α : Type} (d : Design ρ τ ε α) (t : Itemizer ρ σ τ ε) (s : σ) (i : Stream τ)
    (shown : Except Fault (Outcome (Stream τ × α) ε)) (events : List Event) : Prop :=
  ∃ result, ((d.parser t).run s i).config.Ends (d.rules t) ⟨result,events⟩ ∧
    result.map Reply.stateless = shown

/-- The second run may count over its limit. -/
def Coupling.anyStates : Coupling σ σ' τ ε where
  places _ i _ i' := i = i'
  offsets := Eq
  errors := Eq
  excused reason := reason = .overflow
  length_eq h := by rw [h]
  offsets_of_places h := by rw [h]

lemma Event.Alike.eq {e e' : Event} (h : Event.Alike Eq e e') : e = e' := by
  cases h with
  | run | runFinished => rfl
  | item h | plusBacktrack h | altBacktrack _ h | many0Done _ h | commitEscalated h => rw [h]

lemma Fault.Alike.eq {reason reason' : Fault} (h : Fault.Alike Eq reason reason') :
    reason = reason' := by
  cases h with
  | stalled h => rw [h]
  | same _ => rfl

lemma Report.Alike.shown_eq {α : Type} {report : Report (Reply σ τ ε α)}
    {report' : Report (Reply σ' τ ε α)}
    (h : Report.Alike Eq (Reply.Alike (fun _ i _ i' => i = i') Eq Eq) report report') :
    report.result.map Reply.stateless = report'.result.map Reply.stateless ∧
      report.events = report'.events := by
  have hevents : ∀ {events events'}, List.Forall₂ (Event.Alike Eq) events events' →
      events = events' := fun h =>
    List.forall₂_eq_eq_eq ▸ h.imp fun _ _ => Event.Alike.eq
  cases h with
  | answer h hnotes =>
    refine ⟨?_,hevents hnotes⟩
    cases h with
    | @success r r' hplace hvalue =>
      show Except.ok (Outcome.success (r.rest,r.value)) = .ok (.success (r'.rest,r'.value))
      rw [hplace,hvalue]
    | failure => rfl
    | error h => rw [h]; rfl
  | fault h hnotes =>
    refine ⟨?_,hevents hnotes⟩
    rw [h.eq]
    rfl

/-! The parsers that come with an itemizer. -/
section

variable {t : Itemizer ρ σ τ ε} {t' : Itemizer ρ σ' τ ε} {Γ : List Type} {ties : Ties Γ} {α : Type}

lemma Parser.Alike.seq {b : Basis ρ σ σ' τ ε} {R : α → α → Prop} {ps : List (Parser ρ σ τ ε Γ α)}
    {ps' : List (Parser ρ σ' τ ε Γ α)} (h : List.Forall₂ (Parser.Alike b ties R) ps ps') :
    Parser.Alike b ties (List.Forall₂ R) (Parser.seq ps) (Parser.seq ps') := by
  have hparts : ∀ {m n : ℕ} (hmn : m = n) {f : Fin m → Parser ρ σ τ ε Γ α}
      {g : Fin n → Parser ρ σ' τ ε Γ α}, (∀ k, Parser.Alike b ties R (f k) (g (k.cast hmn))) →
        Parser.Alike b ties (List.Forall₂ R) (.sequence m f) (.sequence n g) := by
    rintro m _ rfl f g hk
    exact .sequence hk
  exact hparts h.length_eq fun k => h.get k.isLt _

namespace Itemizer

lemma satisfy_alike (accept : τ → Bool) :
    Parser.Alike (t.basis t') ties Eq (t.satisfy accept) (t'.satisfy accept) :=
  .check (fun _ _ h => congrArg accept h) (.leaf .item)

lemma string_alike [BEq τ] (expected : List τ) :
    Parser.Alike (t.basis t') ties Eq (t.string expected) (t'.string expected) := by
  have htokens : List.Forall₂ (Parser.Alike (t.basis t') ties Eq)
      (expected.map fun token => t.literal token) (expected.map fun token => t'.literal token) :=
    List.forall₂_map_left_iff.mpr (List.forall₂_map_right_iff.mpr
      (List.forall₂_same.mpr fun token _ => satisfy_alike _))
  exact .map (fun _ _ h => h.2) (.both (.seq htokens) (.pure rfl))

lemma not1_alike {R : α → α → Prop} {p : Parser ρ σ τ ε Γ α} {p' : Parser ρ σ' τ ε Γ α}
    (h : Parser.Alike (t.basis t') ties R p p') :
    Parser.Alike (t.basis t') ties Eq (t.not1 p) (t'.not1 p') :=
  .map (fun _ _ h => h.2) (.both (.not0 h) (.leaf .item))

end Itemizer

end

namespace Itemizer

variable {t : Itemizer ρ σ τ ε} {t' : Itemizer ρ σ' τ ε} {step' : σ' → τ → Except Fault σ'}

/-- An itemizer that leaves the state alone and one whose steps may overflow consume alike. -/
lemma Pairs.actions (ht : t.Steps fun s _ => .ok s) (ht' : t'.Steps step')
    (hstep' : ∀ s token reason, step' s token = .error reason → reason = .overflow)
    {Γ : List Type} {α : Type} {R : α → α → Prop} {p : Parser ρ σ τ ε Γ α}
    {p' : Parser ρ σ' τ ε Γ α} (h : t.Pairs t' R p p')
    (calls : Answers (Callee ρ σ τ ε) σ τ ε Event)
    (calls' : Answers (Callee ρ σ' τ ε) σ' τ ε Event) (env : Env ρ σ τ ε Γ)
    (env' : Env ρ σ' τ ε Γ) :
    Coupling.anyStates.Actions calls calls' R (p.action env) (p'.action env') := by
  rintro s i s' _ rfl
  cases h with
  | item =>
    rw [ht,ht']
    cases hi : i.remaining with
    | nil =>
      rw [Action.itemBy_nil hi,Action.itemBy_nil hi]
      exact .done .failure
    | cons token rest =>
      rw [Action.itemBy_ok hi rfl]
      cases hs : step' s' token with
      | ok next =>
        rw [Action.itemBy_ok hi hs]
        exact .emit (.item rfl) (.done (.success rfl rfl))
      | error reason =>
        -- only the second run stops here, and it counted over its limit
        rw [Action.itemBy_error hi hs]
        exact .excused (hstep' _ _ _ hs) _ _
  | rawItem =>
    refine Coupling.Actions.item (fun h => ?_) (fun h _ => ?_) s i s' i rfl
    · obtain rfl := h
      exact List.forall₂_refl _
    · obtain rfl := h
      rfl
  | get => exact .done (.success rfl rfl)
  | put tokens => exact .done (.success rfl rfl)

end Itemizer

namespace Design

variable {α : Type} (d : Design ρ τ ε α)

/-- Leaving the state alone shows what any other way to step shows that does not overflow. -/
lemma shows_iff {t : Itemizer ρ σ τ ε} {t' : Itemizer ρ σ' τ ε} {step' : σ' → τ → Except Fault σ'}
    (ht : t.Steps fun s _ => .ok s) (ht' : t'.Steps step')
    (hstep' : ∀ s token reason, step' s token = .error reason → reason = .overflow)
    (s : σ) (s' : σ') (i : Stream τ)
    (h : ∀ events, ¬ ((d.parser t').run s' i).config.Ends (d.rules t') ⟨.error .overflow,events⟩)
    (shown : Except Fault (Outcome (Stream τ × α) ε)) (events : List Event) :
    d.Shows t s i shown events ↔ d.Shows t' s' i shown events := by
  have hkeeps : Coupling.anyStates.Keeps (t.basis t') :=
    { leaf := fun hp => hp.actions ht ht' hstep'
      errors := rfl
      rewinds := fun _ _ _ _ _ _ _ _ _ hi _ => hi }
  have hplace : (Coupling.anyStates : Coupling σ σ' τ ε).places s i s' i := rfl
  have hG := d.rules_alike t t'
  have hp := d.parser_alike t t'
  constructor
  · rintro ⟨result,hrun,rfl⟩
    rcases hp.ends hkeeps hG hplace hrun with ⟨_,events',rfl,hends⟩ | ⟨report',hends,halike⟩
    · exact absurd hends (h events')
    · obtain ⟨hshown,rfl⟩ := halike.shown_eq
      exact ⟨report'.result,hends,hshown.symm⟩
  · rintro ⟨result',hrun,rfl⟩
    obtain ⟨report,hends,halike⟩ := hp.ends_back hkeeps hG hplace hrun <| by
      rintro _ rfl rfl
      exact h events hrun
    obtain ⟨hshown,rfl⟩ := halike.shown_eq
    exact ⟨report.result,hends,hshown⟩

/-- A grammar over an itemizer parses in the same way under all policies, as long as no counter
overflows. -/
theorem policies_agree (d : Design ρ Char ε α) (s : σ) (n : ℕ) (p : Position) (i : Stream Char)
    (hcount : ∀ events, ¬ ((d.parser .count).run n i).config.Ends (d.rules .count)
      ⟨.error .overflow,events⟩)
    (hposition : ∀ events, ¬ ((d.parser .position).run p i).config.Ends (d.rules .position)
      ⟨.error .overflow,events⟩)
    (shown : Except Fault (Outcome (Stream Char × α) ε)) (events : List Event) :
    (d.Shows .basic s i shown events ↔ d.Shows .count n i shown events) ∧
      (d.Shows .basic s i shown events ↔ d.Shows .position p i shown events) :=
  ⟨d.shows_iff Itemizer.basic_steps Itemizer.count_steps (fun _ _ _ h => checkedSucc_error h)
      s n i hcount shown events,
    d.shows_iff Itemizer.basic_steps Itemizer.position_steps (fun _ _ _ h => Position.bump_error h)
      s p i hposition shown events⟩

def peel (mark : Char) : Design Rules.none Char ε Char where
  rules _ := Grammar.none
  parser t := t.peel mark
  rules_alike _ _ name := name.elim
  parser_alike _ _ :=
    .plus (.map (fun _ _ h => h.1) (.both (.leaf .item) (Itemizer.satisfy_alike _)))
      (Itemizer.not1_alike (Itemizer.string_alike _))

theorem policies_agree_on_peel :
    let d : Design Rules.none Char ℕ Char := .peel 'x'
    let i : Stream Char := .ofList 0 ['\n','b']
    (∀ events, ¬ ((d.parser .count).run 5 i).config.Ends (d.rules .count)
        ⟨.error .overflow,events⟩) ∧
      (∀ events, ¬ ((d.parser .position).run .start i).config.Ends (d.rules .position)
        ⟨.error .overflow,events⟩) ∧
      d.Shows .basic () i (.ok (.success (i.advance 1,'\n')))
        [.run 2,.item 0,.item 1,.plusBacktrack 0,.item 0,.item 0,.runFinished .success 1] := by
  intro d i
  have hcount : ∀ events, ¬ ((d.parser .count).run 5 i).config.Ends (d.rules .count)
      ⟨.error .overflow,events⟩ := fun events h =>
    nomatch congrArg Report.result (h.unique Itemizer.peel_count_ends)
  have hposition : ∀ events, ¬ ((d.parser .position).run .start i).config.Ends (d.rules .position)
      ⟨.error .overflow,events⟩ := fun events h =>
    nomatch congrArg Report.result (h.unique Itemizer.peel_position_ends)
  refine ⟨hcount,hposition,?_⟩
  exact (policies_agree d () 5 .start i hcount hposition _ _).1.mpr
    ⟨_,Itemizer.peel_count_ends,rfl⟩

end Design
end Backtrack
