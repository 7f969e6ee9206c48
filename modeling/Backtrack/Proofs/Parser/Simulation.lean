import Backtrack.Proofs.Parser.Alike
import Backtrack.Proofs.Process.Coupling
import Backtrack.Proofs.Process.Ends

/-!
Runs of parsers that are alike. If a coupling is kept by the leaves, it is kept by all that is built
from them: by induction on how two parsers are alike, then on the depth of calls. `Alike.ends` and
`Alike.ends_back` say what this means for the machine.
-/
namespace Backtrack

variable {ρ : Rules} {σ σ' τ ε : Type} {Γ : List Type} {α : Type}
  {c : Coupling σ σ' τ ε} {b : Basis ρ σ σ' τ ε}

/-- The coupling is kept by the leaves of the basis. -/
structure Coupling.Keeps (c : Coupling σ σ' τ ε) (b : Basis ρ σ σ' τ ε) : Prop where
  leaf : ∀ {Γ : List Type} {α : Type} {R : α → α → Prop} {p : Parser ρ σ τ ε Γ α}
    {p' : Parser ρ σ' τ ε Γ α}, b.leaf R p p' → ∀ (calls : Answers (Callee ρ σ τ ε) σ τ ε Event)
      (calls' : Answers (Callee ρ σ' τ ε) σ' τ ε Event) env env',
      c.Actions calls calls' R (p.action env) (p'.action env')
  errors : b.errors = c.errors
  rewinds : b.rewinds → ∀ {s i t j s' i' t' j'}, c.places s i s' i' → c.places t j t' j' →
    c.places t i t' i'

lemma forall₂_ofFn {μ ν : Type*} {P : μ → ν → Prop} {n : ℕ} {f : Fin n → μ} {g : Fin n → ν}
    (h : ∀ k, P (f k) (g k)) : List.Forall₂ P (List.ofFn f) (List.ofFn g) :=
  List.forall₂_iff_get.mpr ⟨by simp,fun k _ _ => by simpa using h _⟩

/-- Parsers that are alike act alike where the answers to their calls are alike. -/
theorem Parser.Alike.actions (hc : c.Keeps b) {calls : Answers (Callee ρ σ τ ε) σ τ ε Event}
    {calls' : Answers (Callee ρ σ' τ ε) σ' τ ε Event}
    (hcalls : ∀ {α : Type} {R : α → α → Prop} {k : Callee ρ σ τ ε α} {k' : Callee ρ σ' τ ε α},
      Callee.Alike b R k k' → ∀ s i s' i', c.places s i s' i' →
        c.Trails (c.Replies R) (calls k s i) (calls' k' s' i'))
    {ties : Ties Γ} {R : α → α → Prop} {p : Parser ρ σ τ ε Γ α} {p' : Parser ρ σ' τ ε Γ α}
    (h : Parser.Alike b ties R p p') {env : Env ρ σ τ ε Γ} {env' : Env ρ σ' τ ε Γ}
    (henv : Env.Alike b ties env env') :
    c.Actions calls calls' R (p.action env) (p'.action env') := by
  have herror : ∀ {e e' : ε}, b.errors e e' → c.errors e e' := hc.errors ▸ id
  have herror' : ∀ {e e' : ε}, c.errors e e' → b.errors e e' := hc.errors ▸ id
  induction h with
  | leaf h => exact hc.leaf h calls calls' env env'
  | pure h => exact .pure h
  | zero => exact .zero
  | error h => exact .error (herror h)
  | fault h => exact fun _ _ _ _ _ => .fault (.same h)
  | map hf _ ih => exact (ih henv).map hf
  | bind _ _ ih ihNext => exact (ih henv).bind fun x y hxy => ihNext x y hxy henv
  | check haccept _ ih => exact (ih henv).check haccept
  | tuple R _ hmake ih => exact .tuple (fun k => ih k henv) hmake
  | sequence _ ih => exact .sequence (forall₂_ofFn fun k => ih k henv)
  | plus _ _ ihp ihq => exact (ihp henv).plus (ihq henv)
  | choice _ ih => exact .choice (forall₂_ofFn fun k => ih k henv)
  | many0 _ ih => exact (ih henv).many0
  | maybe _ ih => exact (ih henv).maybe
  | not0 _ ih => exact (ih henv).not0 rfl
  | lookahead hrewinds _ ih => exact (ih henv).lookahead (hc.rewinds hrewinds)
  | commit he _ ih => exact (ih henv).commit (herror he)
  | catchError _ _ ih ihHandler =>
    exact (ih henv).catchError fun e e' he => ihHandler e e' (herror' he) henv
  | mapError hf _ ih => exact (ih henv).mapError fun e e' he => herror (hf e e' (herror' he))
  | recursive h ih =>
    -- what the body calls itself is alike, as the body is, so only the environments grow
    exact ih (.define h henv)
  | placeholder slot => exact .call (hcalls (henv.callee slot))
  | rule name => exact .call (hcalls (.rule name))
  | weaken _ hR ih => exact (ih henv).mono hR

/-! From trails to the machine. -/
section

variable {β : Type}

/-- The trail that ends in a report. -/
def Report.trail (report : Report β) : Trail Event β := ⟨report.events,.ofExcept report.result⟩

lemma Process.ends_iff_follow {G : Grammar ρ σ τ ε} {p : Process (Callee ρ σ τ ε) σ τ ε β}
    {report : Report β} :
    p.config.Ends G report ↔ ∃ n, p.follow id (G.answers n) = report.trail :=
  yields_iff_ends.symm.trans yields_iff_follow

variable {P : α → β → Prop}

lemma Coupling.Trails.of_report {report : Report α} {w : Trail Event β}
    (h : c.Trails P report.trail w) :
    (∃ reason, c.excused reason ∧ w = ⟨w.notes,.fault reason⟩) ∨
      ∃ report' : Report β, w = report'.trail ∧ Report.Alike c.offsets P report report' := by
  obtain ⟨result,events⟩ := report
  cases result with
  | ok a =>
    cases h with
    | answer h hnotes => exact .inr ⟨⟨.ok _,_⟩,rfl,.answer h hnotes⟩
    | excused h _ notes => exact .inl ⟨_,h,rfl⟩
  | error reason =>
    cases h with
    | fault h hnotes => exact .inr ⟨⟨.error _,_⟩,rfl,.fault h hnotes⟩
    | excused h _ notes => exact .inl ⟨_,h,rfl⟩

lemma Coupling.Trails.of_report_back {report' : Report β} {w : Trail Event α}
    (h : c.Trails P w report'.trail)
    (hreport : ∀ reason, c.excused reason → report'.result ≠ .error reason) :
    ∃ report : Report α, w = report.trail ∧ Report.Alike c.offsets P report report' := by
  obtain ⟨result,events⟩ := report'
  cases result with
  | ok a =>
    cases h with
    | answer h hnotes => exact ⟨⟨.ok _,_⟩,rfl,.answer h hnotes⟩
  | error reason =>
    cases h with
    | fault h hnotes => exact ⟨⟨.error _,_⟩,rfl,.fault h hnotes⟩
    | excused h _ _ => exact absurd rfl (hreport _ h)

end

variable {G : Grammar ρ σ τ ε} {G' : Grammar ρ σ' τ ε}

/-- Calls are answered alike at every depth. -/
lemma Callee.Alike.answers (hc : c.Keeps b) (hG : Grammar.Alike b G G') (n : ℕ)
    {R : α → α → Prop} {k : Callee ρ σ τ ε α} {k' : Callee ρ σ' τ ε α}
    (hk : Callee.Alike b R k k') {s : σ} {i : Stream τ} {s' : σ'} {i' : Stream τ}
    (hplace : c.places s i s' i') :
    c.Trails (c.Replies R) (G.answers n k s i) (G'.answers n k' s' i') := by
  induction n generalizing α s i s' i' with
  | zero => exact .cut .nil
  | succ n ih =>
    have hcalls : ∀ {α : Type} {R : α → α → Prop} {k : Callee ρ σ τ ε α} {k' : Callee ρ σ' τ ε α},
        Callee.Alike b R k k' → ∀ s i s' i', c.places s i s' i' →
          c.Trails (c.Replies R) (G.answers n k s i) (G'.answers n k' s' i') :=
      fun hk s i s' i' hplace => ih hk hplace
    cases hk with
    | defined hbody houter => exact hbody.actions hc hcalls (.define hbody houter) s i s' i' hplace
    | rule name => exact (hG name).actions hc hcalls .empty s i s' i' hplace

namespace Parser.Alike

variable {R : α → α → Prop} {p : Parser ρ σ τ ε [] α} {p' : Parser ρ σ' τ ε [] α} {s : σ}
  {i : Stream τ} {s' : σ'} {i' : Stream τ}

/-- Runs of parsers that are alike, up to any depth of calls. -/
theorem run (hc : c.Keeps b) (hG : Grammar.Alike b G G') (h : Parser.Alike b Ties.nil R p p')
    (hplace : c.places s i s' i') (n : ℕ) :
    c.Trails (c.Replies R) ((p.run s i).follow id (G.answers n))
      ((p'.run s' i').follow id (G'.answers n)) :=
  (h.actions hc (fun hk _ _ _ _ hplace => hk.answers hc hG n hplace) .empty).run s i s' i' hplace

/-- If the first run ends, the second one ends alike, or with a fault that is excused. -/
theorem ends (hc : c.Keeps b) (hG : Grammar.Alike b G G') (h : Parser.Alike b Ties.nil R p p')
    (hplace : c.places s i s' i') {report : Report (Reply σ τ ε α)}
    (hrun : (p.run s i).config.Ends G report) :
    (∃ reason events, c.excused reason ∧ (p'.run s' i').config.Ends G' ⟨.error reason,events⟩) ∨
      ∃ report', (p'.run s' i').config.Ends G' report' ∧
        Report.Alike c.offsets (c.Replies R) report report' := by
  obtain ⟨n,hn⟩ := Process.ends_iff_follow.mp hrun
  have hends : ∀ report', (p'.run s' i').follow id (G'.answers n) = report'.trail →
      (p'.run s' i').config.Ends G' report' := fun _ h => Process.ends_iff_follow.mpr ⟨n,h⟩
  rcases (hn ▸ h.run hc hG hplace n).of_report with ⟨reason,hreason,hw⟩ | ⟨report',hw,halike⟩
  · exact .inl ⟨reason,_,hreason,hends ⟨.error reason,_⟩ hw⟩
  · exact .inr ⟨report',hends report' hw,halike⟩

/-- If the second run ends, and not with a fault that is excused, the first one ends alike. -/
theorem ends_back (hc : c.Keeps b) (hG : Grammar.Alike b G G') (h : Parser.Alike b Ties.nil R p p')
    (hplace : c.places s i s' i') {report' : Report (Reply σ' τ ε α)}
    (hrun : (p'.run s' i').config.Ends G' report')
    (hreport : ∀ reason, c.excused reason → report'.result ≠ .error reason) :
    ∃ report, (p.run s i).config.Ends G report ∧
      Report.Alike c.offsets (c.Replies R) report report' := by
  obtain ⟨n,hn⟩ := Process.ends_iff_follow.mp hrun
  obtain ⟨report,hw,halike⟩ := (hn ▸ h.run hc hG hplace n).of_report_back hreport
  exact ⟨report,Process.ends_iff_follow.mpr ⟨n,hw⟩,halike⟩

end Parser.Alike
end Backtrack
