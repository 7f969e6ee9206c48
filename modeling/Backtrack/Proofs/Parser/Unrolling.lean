import Backtrack.Proofs.Parser.Stalling
import Backtrack.Proofs.Process.Laws

/-!
Repetitions, one round at a time. The values that a repetition has collected before stand before
those that it still collects, so after a first round that shortens the input it goes on as a
repetition of its own.
-/
namespace Backtrack

variable {ρ : Rules} {σ τ ε : Type} {Γ : List Type} {α β : Type} {G : Grammar ρ σ τ ε} {s : σ}
  {i : Stream τ}

namespace Action

variable {a : Action (Callee ρ σ τ ε) σ τ ε α}

lemma NeverFails.map (h : a.NeverFails G) (f : α → β) : (a.map f).NeverFails G := by
  intro s i hgives
  have hmap : a.map f = a.andThen fun r => .done (.success (r.map f)) := (andThen_done a _).symm
  rw [hmap,andThen_gives_failure] at hgives
  rcases hgives with ha | ⟨r,-,hdone⟩
  · exact h s i ha
  · cases Process.gives_done.mp hdone

/-- The values before are put before those of the rounds to come. -/
lemma many0From_same (a : Action (Callee ρ σ τ ε) σ τ ε α) (before : List α) (s : σ)
    (i : Stream τ) : (many0From a before s i).Same G (a.many0.map (before.reverse ++ ·) s i) := by
  generalize hn : i.length = n
  induction n using Nat.strongRecOn generalizing before s i with
  | _ n ih =>
    rw [map,many0,many0From,many0From,Process.map,Process.bind_assoc]
    apply Process.Same.bind_right
    intro reply _
    cases reply with
    | failure =>
      intro result
      show _ ↔ (Process.emit _ fun _ => .done (.success ⟨s,i,before.reverse ++ []⟩)).Gives G result
      rw [List.append_nil,Process.gives_emit_done,Process.gives_emit_done]
    | error e => exact .refl _
    | success r =>
      by_cases hr : r.rest.length < i.length
      · simp only [hr,if_true]
        have hall := ih _ (hn ▸ hr) (r.value :: before) r.state r.rest rfl
        have hfirst := (ih _ (hn ▸ hr) [r.value] r.state r.rest rfl).bind_left
          (fun reply => .done (reply.map (·.map (before.reverse ++ ·))))
        rw [← map_cons_append] at hall
        exact hall.trans hfirst.symm
      · simp only [hr,if_false]
        exact .refl _

/-- A first round, and then the rest of the repetition. -/
def roundFirst (a : Action (Callee ρ σ τ ε) σ τ ε α) : Action (Callee ρ σ τ ε) σ τ ε (List α) :=
  a.bind fun x => a.many0.map (x :: ·)

/-- A round from here on shortens the input. -/
def Shortens (G : Grammar ρ σ τ ε) (a : Action (Callee ρ σ τ ε) σ τ ε α) (s : σ) (i : Stream τ) :
    Prop :=
  ∀ r, (a s i).Gives G (.ok (.success r)) → r.rest.length < i.length

/-- The first round decides, and if it succeeds, its value is put before those of a new repetition.
-/
lemma Shortens.many0_decided (h : a.Shortens G s i) : (a.many0 s i).Same G ((a s i).bind fun
    | .success r => a.many0.map (r.value :: ·) r.state r.rest
    | .failure => .done (.success ⟨s,i,[]⟩)
    | .error e => .done (.error e)) := by
  rw [many0,many0From]
  apply Process.Same.bind_right
  intro reply hreply
  cases reply with
  | failure => exact .emit _ _
  | error e => exact .refl _
  | success r =>
    simp only [h r hreply,if_true]
    exact many0From_same a [r.value] r.state r.rest

lemma Shortens.many0_same (h : a.Shortens G s i) :
    (a.many0 s i).Same G (a.roundFirst.plus (pure []) s i) := by
  refine h.many0_decided.trans ?_
  rw [plus,orElse,roundFirst,bind,andThen,Process.bind_assoc]
  apply Process.Same.bind_right
  intro reply _
  cases reply with
  | failure => exact (Process.Same.emit (.plusBacktrack i.offset) fun _ => pure [] s i).symm
  | error e => exact .refl _
  | success r =>
    have hrest : ¬ (a.many0.map (r.value :: ·) r.state r.rest).Gives G (.ok .failure) :=
      (many0_neverFails a).map _ _ _
    exact (Process.same_of_not_failure hrest _).symm

lemma Shortens.many1_same (h : a.Shortens G s i) :
    (a.many0.check (fun values => !values.isEmpty) s i).Same G (a.roundFirst s i) := by
  refine (h.many0_decided.bind_left _).trans ?_
  rw [roundFirst,bind,andThen,Process.bind_assoc]
  apply Process.Same.bind_right
  intro reply _
  cases reply with
  | failure => exact .refl _
  | error e => exact .refl _
  | success r =>
    have hkept : (a.many0.map (r.value :: ·)).check (fun values => !values.isEmpty) =
        a.many0.map (r.value :: ·) := map_check_of_accepts _ fun _ => rfl
    exact .of_eq (congrFun (congrFun hkept r.state) r.rest)

/-- A new repetition does not fail, so only the first round can. -/
lemma roundFirst_gives_failure :
    (a.roundFirst s i).Gives G (.ok .failure) ↔ (a s i).Gives G (.ok .failure) := by
  rw [roundFirst,bind,andThen_gives_failure]
  apply or_iff_left
  rintro ⟨r,-,hrest⟩
  exact (many0_neverFails a).map _ _ _ hrest

end Action

namespace Parser

variable {env : Env ρ σ τ ε Γ} {p : Parser ρ σ τ ε Γ α}

/-- If a parser shortens the input wherever it succeeds on it, then to repeat it at least once is to
run it and then to repeat it, and to repeat it is the same or nothing at all: each comes to the same
ends, errors and faults of later rounds included. So a repetition that asks for one round fails
exactly if the first round does. -/
theorem repetition_unrolls (h : (p.action env).Shortens G s i) :
    let once := bind p fun x => map (x :: ·) (many0 p)
    ((many1 p).action env s i).Same G (once.action env s i) ∧
      ((many0 p).action env s i).Same G ((plus once (pure [])).action env s i) ∧
      (((many1 p).action env s i).Gives G (.ok .failure) ↔
        (p.action env s i).Gives G (.ok .failure)) := by
  have honce : (bind p fun x => map (x :: ·) (many0 p)).action env = (p.action env).roundFirst := by
    simp [Action.roundFirst]
  intro once
  rw [many1_action,many0_action,plus_action,pure_action,honce]
  exact ⟨h.many1_same,h.many0_same,(h.many1_same _).trans Action.roundFirst_gives_failure⟩

/-- The first round shortens the input, and the second one stalls. -/
theorem repetition_unrolls_to_stall :
    let p : Parser Rules.none Unit Char ℕ [] Char := optional (check (· == 'a') item) 'x'
    let i : Stream Char := .ofList 0 ['a','b']
    (p.action .empty).Shortens .none () i ∧
      ((many1 p).action .empty () i).Gives .none (.error (.stalled 1)) := by
  intro p i
  have hround : (p.action .empty () i).Gives .none (.ok (.success ⟨(),i.advance 1,'a'⟩)) :=
    Process.gives_iff_follow.mpr ⟨0,[.item 0],rfl⟩
  have hshortens : (p.action .empty).Shortens .none () i := by
    intro r hr
    obtain rfl := Outcome.success.inj (Except.ok.inj (hround.unique hr))
    decide
  have hsecond : (p.action .empty () (i.advance 1)).Gives .none
      (.ok (.success ⟨(),i.advance 1,'x'⟩)) :=
    Process.gives_iff_follow.mpr ⟨0,[.item 1,.plusBacktrack 1],rfl⟩
  have hrest : ((many0 p).action .empty () (i.advance 1)).Gives .none (.error (.stalled 1)) :=
    Action.many0_gives_iff.mpr ⟨_,(),_,.nil _ _,.stalled hsecond (Nat.le_refl _)⟩
  obtain ⟨hmany1,-⟩ := repetition_unrolls hshortens
  exact ⟨hshortens,(hmany1 _).mpr (hround.bind hrest.bind_fault)⟩

end Parser
end Backtrack
