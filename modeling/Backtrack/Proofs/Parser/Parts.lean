import Backtrack.Proofs.Parser.Simulation

/-!
What parsers are built from. A parser that is built from given leaves by any combinators is alike
to itself. An invariant of states and tokens that the leaves keep therefore holds where a run
succeeds: `Parser.BuiltFrom.keeps`.
-/
namespace Backtrack

variable {ρ : Rules} {σ τ ε : Type}

/-- Parsers that may be used as they stand, and whether tokens may be rewound with the state
kept. -/
structure Parts (ρ : Rules) (σ τ ε : Type) where
  leaf : {Γ : List Type} → {α : Type} → Parser ρ σ τ ε Γ α → Prop
  rewinds : Prop

/-- The parser is built from the leaves by combinators, for all values that select its parts. -/
inductive Parser.BuiltFrom (parts : Parts ρ σ τ ε) : {Γ : List Type} → {α : Type} →
    Parser ρ σ τ ε Γ α → Prop
  | leaf {Γ α} {p : Parser ρ σ τ ε Γ α} (h : parts.leaf p) : BuiltFrom parts p
  | pure {Γ α} (value : α) : BuiltFrom parts (.pure value : Parser ρ σ τ ε Γ α)
  | zero {Γ α} : BuiltFrom parts (.zero : Parser ρ σ τ ε Γ α)
  | error {Γ α} (payload : ε) : BuiltFrom parts (.error payload : Parser ρ σ τ ε Γ α)
  | fault {Γ α} {reason : Fault} (h : ∀ offset, reason ≠ .stalled offset) :
      BuiltFrom parts (.fault reason : Parser ρ σ τ ε Γ α)
  | map {Γ α β} (f : α → β) {p : Parser ρ σ τ ε Γ α} (h : BuiltFrom parts p) :
      BuiltFrom parts (.map f p)
  | bind {Γ α β} {p : Parser ρ σ τ ε Γ α} {next : α → Parser ρ σ τ ε Γ β} (h : BuiltFrom parts p)
      (hnext : ∀ x, BuiltFrom parts (next x)) : BuiltFrom parts (.bind p next)
  | check {Γ α} (accept : α → Bool) {p : Parser ρ σ τ ε Γ α} (h : BuiltFrom parts p) :
      BuiltFrom parts (.check accept p)
  | tuple {Γ n β} {types : Fin n → Type} {ps : (k : Fin n) → Parser ρ σ τ ε Γ (types k)}
      (make : ((k : Fin n) → types k) → β) (h : ∀ k, BuiltFrom parts (ps k)) :
      BuiltFrom parts (.tuple n types ps make)
  | sequence {Γ α n} {ps : Fin n → Parser ρ σ τ ε Γ α} (h : ∀ k, BuiltFrom parts (ps k)) :
      BuiltFrom parts (.sequence n ps)
  | plus {Γ α} {p q : Parser ρ σ τ ε Γ α} (hp : BuiltFrom parts p) (hq : BuiltFrom parts q) :
      BuiltFrom parts (.plus p q)
  | choice {Γ α n} {ps : Fin n → Parser ρ σ τ ε Γ α} (h : ∀ k, BuiltFrom parts (ps k)) :
      BuiltFrom parts (.choice n ps)
  | many0 {Γ α} {p : Parser ρ σ τ ε Γ α} (h : BuiltFrom parts p) : BuiltFrom parts (.many0 p)
  | maybe {Γ α} {p : Parser ρ σ τ ε Γ α} (h : BuiltFrom parts p) : BuiltFrom parts (.maybe p)
  | not0 {Γ α} {p : Parser ρ σ τ ε Γ α} (h : BuiltFrom parts p) : BuiltFrom parts (.not0 p)
  | lookahead {Γ α} {p : Parser ρ σ τ ε Γ α} (hrewinds : parts.rewinds) (h : BuiltFrom parts p) :
      BuiltFrom parts (.lookahead p)
  | commit {Γ α} (payload : ε) {p : Parser ρ σ τ ε Γ α} (h : BuiltFrom parts p) :
      BuiltFrom parts (.commit payload p)
  | catchError {Γ α} {p : Parser ρ σ τ ε Γ α} {handler : ε → Parser ρ σ τ ε Γ α}
      (h : BuiltFrom parts p) (hhandler : ∀ e, BuiltFrom parts (handler e)) :
      BuiltFrom parts (.catchError p handler)
  | mapError {Γ α} (f : ε → ε) {p : Parser ρ σ τ ε Γ α} (h : BuiltFrom parts p) :
      BuiltFrom parts (.mapError f p)
  | recursive {Γ α} {body : Parser ρ σ τ ε (α :: Γ) α} (h : BuiltFrom parts body) :
      BuiltFrom parts (.recursive body)
  | placeholder {Γ α} (slot : Slot Γ α) : BuiltFrom parts (.placeholder slot)
  | rule {Γ} (name : ρ.Name) : BuiltFrom parts (.rule name : Parser ρ σ τ ε Γ _)

/-- Every definition of the environment is built from the parts. -/
def Env.BuiltFrom (parts : Parts ρ σ τ ε) : {Γ : List Type} → Env ρ σ τ ε Γ → Prop
  | _, .empty => True
  | _, .define body outer => body.BuiltFrom parts ∧ outer.BuiltFrom parts

/-- What a call runs is built from the parts, if the rules are. -/
def Callee.BuiltFrom (parts : Parts ρ σ τ ε) {α : Type} : Callee ρ σ τ ε α → Prop
  | .defined body outer => body.BuiltFrom parts ∧ outer.BuiltFrom parts
  | .rule _ => True

lemma Env.BuiltFrom.callee {parts : Parts ρ σ τ ε} {Γ : List Type} {α : Type}
    {env : Env ρ σ τ ε Γ} (henv : env.BuiltFrom parts) (slot : Slot Γ α) :
    (env.callee slot).BuiltFrom parts := by
  induction slot with
  | here =>
    cases env with
    | define body outer => exact henv
  | there slot ih =>
    cases env with
    | define body outer => exact ih henv.2

/-- Both parsers are the same one, built from the parts. -/
def Parts.diagonal (parts : Parts ρ σ τ ε) : Basis ρ σ σ τ ε where
  leaf R p p' := R = Eq ∧ p = p' ∧ parts.leaf p
  errors := Eq
  outs _ := Eq
  rewinds := parts.rewinds

variable {Γ : List Type} {α : Type} {parts : Parts ρ σ τ ε}

namespace Parser.BuiltFrom

lemma both {β : Type} {p : Parser ρ σ τ ε Γ α} {q : Parser ρ σ τ ε Γ β} (hp : p.BuiltFrom parts)
    (hq : q.BuiltFrom parts) : (Parser.both p q).BuiltFrom parts :=
  .tuple _ (Fin.forall_fin_two.mpr ⟨hp,hq⟩)

/-- Such a parser is alike to itself wherever its leaves are. -/
theorem alike {b : Basis ρ σ σ τ ε}
    (hleaf : ∀ {Γ : List Type} {α : Type} {p : Parser ρ σ τ ε Γ α}, parts.leaf p → b.leaf Eq p p)
    (herrors : b.errors = Eq) (houts : ∀ name, b.outs name = Eq)
    (hrewinds : parts.rewinds → b.rewinds) {p : Parser ρ σ τ ε Γ α} (hp : p.BuiltFrom parts)
    {ties : Ties Γ} (hties : ∀ α slot, ties α slot = Eq) : Parser.Alike b ties Eq p p := by
  have herror : ∀ e, b.errors e e := fun e => herrors ▸ rfl
  have heq : ∀ {e e' : ε}, b.errors e e' → e = e' := herrors ▸ id
  induction hp with
  | leaf h => exact .leaf (hleaf h)
  | pure value => exact .pure rfl
  | zero => exact .zero
  | error payload => exact .error (herror payload)
  | fault h => exact .fault h
  | map f _ ih => exact .map (by rintro x _ rfl; rfl) (ih hties)
  | bind _ _ ih ihNext => exact .bind (ih hties) (by rintro x _ rfl; exact ihNext x hties)
  | check accept _ ih => exact .check (by rintro x _ rfl; rfl) (ih hties)
  | tuple make _ ih =>
    exact .tuple (fun _ => Eq) (fun k => ih k hties) fun x y h => congrArg make (funext h)
  | sequence _ ih =>
    exact .weaken (.sequence fun k => ih k hties) fun x y h => List.forall₂_eq_eq_eq ▸ h
  | plus _ _ ihp ihq => exact .plus (ihp hties) (ihq hties)
  | choice _ ih => exact .choice fun k => ih k hties
  | many0 _ ih => exact .weaken (.many0 (ih hties)) fun x y h => List.forall₂_eq_eq_eq ▸ h
  | maybe _ ih => exact .weaken (.maybe (ih hties)) fun x y h => by cases h <;> simp_all
  | not0 _ ih => exact .not0 (ih hties)
  | lookahead h _ ih => exact .lookahead (hrewinds h) (ih hties)
  | commit payload _ ih => exact .commit (herror payload) (ih hties)
  | catchError _ _ ih ihHandler =>
    -- the handler is selected by the error, and equal errors select the same one
    refine .catchError (ih hties) fun e e' he => ?_
    obtain rfl := heq he
    exact ihHandler e hties
  | mapError f _ ih => exact .mapError (fun e e' he => heq he ▸ herror (f e)) (ih hties)
  | recursive _ ih =>
    refine .recursive (ih fun α slot => ?_)
    cases slot with
    | here => rfl
    | there slot => exact hties _ slot
  | placeholder slot => exact hties _ slot ▸ .placeholder slot
  | rule name => exact houts name ▸ .rule name

end Parser.BuiltFrom

/-- A run beside itself, where an invariant holds at every place. -/
def Coupling.ofInvariant (Inv : σ → Stream τ → Prop) : Coupling σ σ τ ε where
  places s i s' i' := s = s' ∧ i = i' ∧ Inv s i
  offsets := Eq
  errors := Eq
  excused _ := False
  length_eq h := by rw [h.2.1]
  offsets_of_places h := by rw [h.2.1]

variable {G : Grammar ρ σ τ ε}

/-- Where all leaves keep an invariant, it holds at the end of every success. -/
theorem Parser.BuiltFrom.keeps (Inv : σ → Stream τ → Prop)
    (hG : ∀ name, (G name).BuiltFrom parts) {p : Parser ρ σ τ ε [] α} (hp : p.BuiltFrom parts)
    (hleaf : ∀ {Γ : List Type} {α : Type} {p : Parser ρ σ τ ε Γ α}, parts.leaf p →
      ∀ (calls calls' : Answers (Callee ρ σ τ ε) σ τ ε Event) env env',
        (Coupling.ofInvariant Inv).Actions calls calls' Eq (p.action env) (p.action env'))
    (hrewinds : parts.rewinds → ∀ {s i t j}, Inv s i → Inv t j → Inv t i) {s : σ} {i : Stream τ}
    (hinv : Inv s i) {r : Parsed σ τ α} {events : List Event}
    (h : (p.run s i).config.Ends G ⟨.ok (.success r),events⟩) : Inv r.state r.rest := by
  have hkeeps : (Coupling.ofInvariant Inv).Keeps parts.diagonal :=
    { leaf := by
        rintro Γ α R p p' ⟨rfl,rfl,hp⟩
        exact hleaf hp
      errors := rfl
      rewinds := by
        rintro h s i t j s' i' t' j' ⟨rfl,rfl,hi⟩ ⟨rfl,rfl,hj⟩
        exact ⟨rfl,rfl,hrewinds h hi hj⟩ }
  have halike : ∀ {α : Type} {p : Parser ρ σ τ ε [] α}, p.BuiltFrom parts →
      Parser.Alike parts.diagonal Ties.nil Eq p p := fun hp =>
    hp.alike (b := parts.diagonal) (fun h => ⟨rfl,rfl,h⟩) rfl (fun _ => rfl) id
      fun _ slot => nomatch slot
  rcases (halike hp).ends hkeeps (fun name => halike (hG name)) ⟨rfl,rfl,hinv⟩ h with
    ⟨_,_,hfalse,_⟩ | ⟨report,_,hreport⟩
  · exact hfalse.elim
  · cases hreport with
    | answer h _ =>
      cases h with
      | success hplace _ => exact hplace.2.2

end Backtrack
