import Backtrack.Process.Tells

/-!
Total correctness of answers: what a process tells, whatever it reports on the way. There is one
rule for each operation on actions that a terminating grammar needs; `Reply.Leaves` bounds the
tokens that a success leaves.
-/
namespace Backtrack

variable {ρ : Rules} {σ τ ε : Type} {α β : Type} {G : Grammar ρ σ τ ε}

namespace Process

/-- The process ends without a fault, in an answer with property `Q`. -/
def Meets (G : Grammar ρ σ τ ε) (p : Process (Callee ρ σ τ ε) σ τ ε β) (Q : β → Prop) : Prop :=
  p.Tells G fun _ b => Q b

namespace Meets

variable {Q : β → Prop} {p : Process (Callee ρ σ τ ε) σ τ ε β}

theorem done {b : β} (h : Q b) : (Process.done b : Process (Callee ρ σ τ ε) σ τ ε β).Meets G Q :=
  Tells.done h

theorem emit {event : Event} {next : Unit → Process (Callee ρ σ τ ε) σ τ ε β}
    (h : (next ()).Meets G Q) : (Process.emit event next).Meets G Q :=
  Tells.emit h

theorem call {P : Reply σ τ ε α → Prop} {callee : Callee ρ σ τ ε α} {s : σ} {i : Stream τ}
    {next : Reply σ τ ε α → Process (Callee ρ σ τ ε) σ τ ε β}
    (h : (callee.action G s i).Meets G P) (hn : ∀ r, P r → (next r).Meets G Q) :
    (Process.call callee s i next).Meets G Q :=
  Tells.call h fun _ => hn

theorem bind {P : α → Prop} {p : Process (Callee ρ σ τ ε) σ τ ε α}
    {f : α → Process (Callee ρ σ τ ε) σ τ ε β} (h : p.Meets G P)
    (hf : ∀ a, P a → (f a).Meets G Q) : (p.bind f).Meets G Q :=
  Tells.bind h fun _ => hf

theorem map {P : α → Prop} {p : Process (Callee ρ σ τ ε) σ τ ε α} {f : α → β} (h : p.Meets G P)
    (hf : ∀ a, P a → Q (f a)) : (p.map f).Meets G Q :=
  h.bind fun a ha => done (hf a ha)

theorem mono {P : β → Prop} (h : p.Meets G P) (hpq : ∀ b, P b → Q b) : p.Meets G Q :=
  Tells.mono h fun _ => hpq

end Meets
end Process

/-- A success leaves fewer than `n` tokens. -/
def Reply.Leaves (n : Nat) : Reply σ τ ε α → Prop
  | .success r => r.rest.length < n
  | .failure => True
  | .error _ => True

theorem Reply.Leaves.mono {m n : Nat} {r : Reply σ τ ε α} (h : Reply.Leaves m r) (hmn : m ≤ n) :
    Reply.Leaves n r := by
  cases r with
  | success r => exact Nat.lt_of_lt_of_le h hmn
  | failure => trivial
  | error e => trivial

namespace Action

variable {a : Action (Callee ρ σ τ ε) σ τ ε α} {s : σ} {i : Stream τ} {m n : Nat}

theorem andThen_leaves {next : Parsed σ τ α → Process (Callee ρ σ τ ε) σ τ ε (Reply σ τ ε β)}
    (h : (a s i).Meets G (Reply.Leaves n))
    (hn : ∀ r : Parsed σ τ α, r.rest.length < n → (next r).Meets G (Reply.Leaves m)) :
    (a.andThen next s i).Meets G (Reply.Leaves m) :=
  h.bind fun
    | .success r, hr => hn r hr
    | .failure, _ => .done trivial
    | .error _, _ => .done trivial

theorem bind_leaves {next : α → Action (Callee ρ σ τ ε) σ τ ε β}
    (h : (a s i).Meets G (Reply.Leaves n))
    (hn : ∀ x s' i', i'.length < n → (next x s' i').Meets G (Reply.Leaves m)) :
    (a.bind next s i).Meets G (Reply.Leaves m) :=
  andThen_leaves h fun r hr => hn r.value r.state r.rest hr

theorem orElse_leaves {other : Action (Callee ρ σ τ ε) σ τ ε α} (h : (a s i).Meets G (Reply.Leaves n))
    (ho : (other s i).Meets G (Reply.Leaves n)) :
    (a.orElse other s i).Meets G (Reply.Leaves n) :=
  h.bind fun
    | .success _, hr => .done hr
    | .failure, _ => ho
    | .error _, _ => .done trivial

theorem map_leaves {f : α → β} (h : (a s i).Meets G (Reply.Leaves n)) :
    (a.map f s i).Meets G (Reply.Leaves n) :=
  h.map fun
    | .success _, hr => hr
    | .failure, _ => trivial
    | .error _, _ => trivial

theorem pure_leaves (value : α) (h : i.length < n) :
    (Action.pure value s i : Process (Callee ρ σ τ ε) σ τ ε _).Meets G (Reply.Leaves n) := .done h

theorem error_leaves (payload : ε) :
    (Action.error payload s i : Process (Callee ρ σ τ ε) σ τ ε (Reply σ τ ε α)).Meets G
      (Reply.Leaves n) :=
  .done trivial

theorem getState_leaves (h : i.length < n) :
    (Action.getState s i : Process (Callee ρ σ τ ε) σ τ ε _).Meets G (Reply.Leaves n) := .done h

theorem putState_leaves (state : σ) (h : i.length < n) :
    (Action.putState state s i : Process (Callee ρ σ τ ε) σ τ ε _).Meets G (Reply.Leaves n) := .done h

/-- An update that cannot fault. -/
theorem updateState_leaves (f : σ → σ) (h : i.length < n) :
    (Action.updateState (fun s => .ok (f s)) s i : Process (Callee ρ σ τ ε) σ τ ε _).Meets G
      (Reply.Leaves n) :=
  .done h

/-- A consumed token is gone. -/
theorem item_leaves :
    (Action.item s i : Process (Callee ρ σ τ ε) σ τ ε (Reply σ τ ε τ)).Meets G
      (Reply.Leaves i.length) := by
  unfold Action.item
  split
  · next token rest h =>
    refine .emit (.done ?_)
    have hlt : i.offset < i.buffer.tokens.size := by
      simp only [Stream.splitFirst?, Option.map_eq_some_iff, Stream.first?] at h
      obtain ⟨t, ht, _⟩ := h
      exact (Array.getElem?_eq_some_iff.mp ht).1
    obtain ⟨t, -, ht⟩ := Option.map_eq_some_iff.mp h
    obtain ⟨rfl, rfl⟩ := Prod.mk.inj ht
    show i.buffer.tokens.size - (i.offset + 1) < i.buffer.tokens.size - i.offset
    omega
  · exact .done trivial

theorem check_leaves {accept : α → Bool} (h : (a s i).Meets G (Reply.Leaves n)) :
    (a.check accept s i).Meets G (Reply.Leaves n) :=
  andThen_leaves h fun r hr => .done (by split <;> first | exact hr | trivial)

theorem not0_leaves (h : (a s i).Meets G (Reply.Leaves m)) (hi : i.length < n) :
    (a.not0 s i).Meets G (Reply.Leaves n) :=
  h.map fun
    | .success _, _ => trivial
    | .failure, _ => hi
    | .error _, _ => trivial

theorem plus_leaves {b : Action (Callee ρ σ τ ε) σ τ ε α} (h : (a s i).Meets G (Reply.Leaves n))
    (hb : (b s i).Meets G (Reply.Leaves n)) : (a.plus b s i).Meets G (Reply.Leaves n) :=
  orElse_leaves h (.emit hb)

theorem commit_leaves {payload : ε} (h : (a s i).Meets G (Reply.Leaves n)) :
    (a.commit payload s i).Meets G (Reply.Leaves n) :=
  orElse_leaves h (.emit (.done trivial))

/-- A repetition ends if every round within the input ends and, on success, shortens it. -/
theorem many0From_leaves (values : List α) (s : σ) (i : Stream τ)
    (h : ∀ s' i', i'.length ≤ i.length → (a s' i').Meets G (Reply.Leaves i'.length)) :
    (many0From a values s i).Meets G (Reply.Leaves (i.length + 1)) := by
  rw [many0From]
  refine (h s i (Nat.le_refl _)).bind fun reply hr => ?_
  cases reply with
  | success r =>
    simp only [Reply.Leaves] at hr
    simp only [hr, if_true]
    exact (many0From_leaves (r.value :: values) r.state r.rest fun s' i' hi =>
      h s' i' (by omega)).mono fun _ hq => hq.mono (by omega)
  | failure => exact .emit (.done (Nat.lt_succ_self _))
  | error e => exact .done trivial
termination_by i.length

theorem run_leaves (h : (a s i).Meets G (Reply.Leaves n)) :
    (a.run s i).Meets G (Reply.Leaves n) :=
  .emit (h.bind fun _ hr => .emit (.done hr))

end Action
end Backtrack
