import Backtrack.Proofs.Fault
import Backtrack.Proofs.Itemizer.Tracking
import Backtrack.Proofs.Process.Gives

/-!
Parsers of one token. Such a parser lets the state make its step over the token in front, and then
accepts or refuses that. Some of them in a row accept the tokens in front of them, or fail; one that
accepts every token takes, when repeated, all tokens that there are.
-/
namespace Backtrack

variable {ρ : Rules} {σ τ ε : Type}

namespace Action

variable {G : Grammar ρ σ τ ε} {step : σ → τ → Except Fault σ} {accept : τ → Bool}
  {a : Action (Callee ρ σ τ ε) σ τ ε τ} {s t : σ} {i : Stream τ} {token : τ} {rest : List τ}

variable (G step accept) in
/-- The action takes one token. It fails where there is none, and stops with the fault of a step
that the state cannot make; after the step it succeeds with the token, if it accepts that. -/
structure Takes (a : Action (Callee ρ σ τ ε) σ τ ε τ) : Prop where
  none : ∀ {s i}, i.remaining = [] → (a s i).Gives G (.ok .failure)
  ok : ∀ {s t i token rest}, i.remaining = token :: rest → step s token = .ok t →
    (a s i).Gives G
      (.ok (if accept token = true then .success ⟨t,i.advance 1,token⟩ else .failure))
  fault : ∀ {s i token rest reason}, i.remaining = token :: rest →
    step s token = .error reason → (a s i).Gives G (.error reason)

lemma itemBy_takes : (itemBy step : Action (Callee ρ σ τ ε) σ τ ε τ).Takes G step fun _ => true where
  none h := by
    rw [itemBy_nil h]
    exact Process.gives_done.mpr rfl
  ok h hstep := by
    rw [itemBy_ok h hstep]
    exact Process.gives_emit_done.mpr rfl
  fault h hstep := by
    rw [itemBy_error h hstep]
    exact Process.gives_emit.mpr (Process.gives_fault.mpr rfl)

lemma Takes.check (h : a.Takes G step fun _ => true) (accept : τ → Bool) :
    (a.check accept).Takes G step accept where
  none hi := (h.none hi).bind (Process.gives_done.mpr rfl)
  ok hi hstep := (h.ok hi hstep).bind (Process.gives_done.mpr rfl)
  fault hi hstep := (h.fault hi hstep).bind_fault

lemma Takes.accepts (h : a.Takes G step accept) (hi : i.remaining = token :: rest)
    (hstep : step s token = .ok t) (haccept : accept token = true) :
    (a s i).Gives G (.ok (.success ⟨t,i.advance 1,token⟩)) := by
  have hgives := h.ok hi hstep
  rwa [if_pos haccept] at hgives

lemma Takes.refuses (h : a.Takes G step accept) (hi : i.remaining = token :: rest)
    (hstep : step s token = .ok t) (haccept : ¬ accept token = true) :
    (a s i).Gives G (.ok .failure) := by
  have hgives := h.ok hi hstep
  rwa [if_neg haccept] at hgives

/-- The tokens are as many as the tests, and each is accepted by its own test. -/
def Accepted (tests : List (τ → Bool)) (tokens : List τ) : Prop :=
  List.Forall₂ (fun accept token => accept token = true) tests tokens

variable {tests : List (τ → Bool)} {actions : List (Action (Callee ρ σ τ ε) σ τ ε τ)}
  {front back tokens : List τ}

/-- Actions in a row succeed over tokens that they accept. -/
lemma sequenceFrom_accepts (h : List.Forall₂ (Takes G step) tests actions)
    (hfront : Accepted tests front) (hi : i.remaining = front ++ back)
    (hstep : front.foldlM step s = .ok t) (values : List τ) : (sequenceFrom values actions s i).Gives G
      (.ok (.success ⟨t,i.advance front.length,values.reverse ++ front⟩)) := by
  induction h generalizing front s i values with
  | nil =>
    cases hfront
    cases hstep
    exact Process.gives_done.mpr (by simp)
  | cons ha _ ih =>
    cases hfront with
    | @cons _ token _ front haccept hfront =>
      obtain ⟨next,hnext,hrest⟩ := bind_eq_ok_iff.mp hstep
      have hremaining : (i.advance 1).remaining = front ++ back := by simp [hi]
      refine (ha.accepts hi hnext haccept).bind ?_
      have hgives := ih hfront hremaining hrest (token :: values)
      rw [List.reverse_cons,List.append_assoc,Stream.advance_advance,Nat.add_comm 1] at hgives
      exact hgives

/-- Actions in a row fail before tokens that they do not all accept. -/
lemma sequenceFrom_refuses (h : List.Forall₂ (Takes G step) tests actions)
    (hstep : (i.remaining.take tests.length).foldlM step s = .ok t)
    (hrefused : ¬ Accepted tests (i.remaining.take tests.length)) (values : List τ) :
    (sequenceFrom values actions s i).Gives G (.ok .failure) := by
  induction h generalizing s i values with
  | nil => exact absurd .nil hrefused
  | @cons accept _ tests _ ha _ ih =>
    cases hi : i.remaining with
    | nil => exact (ha.none hi).bind (Process.gives_done.mpr rfl)
    | cons token rest =>
      rw [hi,List.length_cons,List.take_succ_cons] at hstep hrefused
      obtain ⟨next,hnext,hrest⟩ := bind_eq_ok_iff.mp hstep
      have hremaining : (i.advance 1).remaining = rest := by simp [hi]
      by_cases haccept : accept token = true
      · refine (ha.accepts hi hnext haccept).bind (ih ?_ ?_ _)
        · rwa [hremaining]
        · rw [hremaining]
          exact fun hall => hrefused (.cons haccept hall)
      · exact (ha.refuses hi hnext haccept).bind (Process.gives_done.mpr rfl)

/-- An action that accepts every token takes all of them, as far as the state makes its steps. -/
lemma many0From_takes (h : a.Takes G step fun _ => true) (hi : i.remaining = tokens)
    (values : List τ) : (many0From a values s i).Gives G ((tokens.foldlM step s).map fun t =>
      .success ⟨t,i.advance tokens.length,values.reverse ++ tokens⟩) := by
  induction tokens generalizing s i values with
  | nil =>
    rw [many0From]
    refine (h.none hi).bind (Process.gives_emit_done.mpr ?_)
    rw [List.append_nil]
    rfl
  | cons token tokens ih =>
    rw [many0From,List.foldlM_cons]
    cases hnext : step s token with
    | error reason => exact (h.fault hi hnext).bind_fault
    | ok next =>
      have hremaining : (i.advance 1).remaining = tokens := by simp [hi]
      have hshorter : (i.advance 1).length < i.length := by
        rw [Stream.length_eq_of_remaining hremaining,Stream.length_eq_of_remaining hi]
        exact Nat.lt_succ_self _
      refine (h.accepts hi hnext rfl).bind ?_
      simp only [hshorter,if_true]
      have hgives := @ih next (i.advance 1) hremaining (token :: values)
      rw [List.reverse_cons,List.append_assoc,Stream.advance_advance,Nat.add_comm 1] at hgives
      exact hgives

end Action

namespace Itemizer

variable {t : Itemizer ρ σ τ ε} {step : σ → τ → Except Fault σ} {G : Grammar ρ σ τ ε}
  {Γ : List Type} {env : Env ρ σ τ ε Γ}

lemma Steps.item_takes (h : t.Steps step) : (t.item.action env).Takes G step fun _ => true := by
  rw [h env]
  exact Action.itemBy_takes

lemma Steps.satisfy_takes (h : t.Steps step) (accept : τ → Bool) :
    ((t.satisfy accept).action env).Takes G step accept :=
  h.item_takes.check accept

end Itemizer
end Backtrack
