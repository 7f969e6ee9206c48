import Backtrack.Proofs.Parser.Watch

/-!
The way of an error through a watched run. It is raised once, then the parsers that are open at
that place are left one after the other, the innermost first, and each may transform the error.
`Conduct` says this of a whole trail, and holds along every continuation that passes errors on.
-/
namespace Backtrack

variable {ρ : Rules} {σ τ ε : Type} {α β : Type}

namespace AnyParser

/-- What a parser does to an error on its way out. -/
def errorMap (p : AnyParser ρ σ τ ε) : ε → ε :=
  match p.parser with
  | .mapError f _ => f
  | _ => id

/-- The parser does nothing else than to commit to an error. -/
def isErrorLeaf (p : AnyParser ρ σ τ ε) : Bool :=
  match p.parser with
  | .error _ => true
  | _ => false

end AnyParser

namespace Mark

/-- An error comes up here: an `error` is run, or a `commit` escalates a failure. -/
def raises : Mark ρ σ τ ε → Bool
  | enter p => p.isErrorLeaf
  | event (.commitEscalated _) => true
  | leave _ | event _ => false

/-- A parser is left with an error. -/
def returnsError : Mark ρ σ τ ε → Bool
  | leave answer => answer.isError
  | enter _ | event _ => false

/-- No error is in sight. -/
def Calm (m : Mark ρ σ τ ε) : Prop := m.raises = false ∧ m.returnsError = false

lemma not_returnsError_of_raises {m : Mark ρ σ τ ε} (h : m.raises = true) :
    m.returnsError = false := by
  cases m with
  | enter p => rfl
  | leave answer => simp [raises] at h
  | event e => rfl

lemma event?_of_raises {m : Mark ρ σ τ ε} (h : m.raises = true) :
    m.event? = none ∨ ∃ offset, m.event? = some (.commitEscalated offset) := by
  cases m with
  | enter p => exact .inl rfl
  | leave answer => exact .inl rfl
  | event e =>
    cases e with
    | commitEscalated offset => exact .inr ⟨offset,rfl⟩
    | _ => simp [raises] at h

lemma Calm.event?_ne {m : Mark ρ σ τ ε} (h : m.Calm) (offset : ℕ) :
    m.event? ≠ some (.commitEscalated offset) := by
  rcases m with p | answer | e
  · simp [event?]
  · simp [event?]
  · rintro he
    obtain rfl : e = _ := by simpa [event?] using he
    simp [Calm,raises] at h

/-- The parsers that are open after a mark, the innermost first. -/
def openAfter (outer : List (AnyParser ρ σ τ ε)) : Mark ρ σ τ ε → List (AnyParser ρ σ τ ε)
  | enter p => p :: outer
  | leave _ => outer.tail
  | event _ => outer

end Mark

/-- The parsers that are open after some marks, the innermost first. -/
def opened (outer : List (AnyParser ρ σ τ ε)) (marks : List (Mark ρ σ τ ε)) :
    List (AnyParser ρ σ τ ε) :=
  marks.foldl Mark.openAfter outer

/-- An error after it has left some parsers, the innermost first. -/
def passOut (left : List (AnyParser ρ σ τ ε)) (e : ε) : ε :=
  left.foldl (fun e p => p.errorMap e) e

/-- Leave some parsers with an error, the innermost first. -/
def unwinding : List (AnyParser ρ σ τ ε) → ε → List (Mark ρ σ τ ε)
  | [], _ => []
  | p :: outer, e => .leave (.error (p.errorMap e)) :: unwinding outer (p.errorMap e)

section
variable (outer inner : List (AnyParser ρ σ τ ε)) (marks more : List (Mark ρ σ τ ε)) (e : ε)

@[simp] theorem opened_append : opened outer (marks ++ more) = opened (opened outer marks) more :=
  List.foldl_append

@[simp] theorem passOut_append : passOut (inner ++ outer) e = passOut outer (passOut inner e) :=
  List.foldl_append

theorem unwinding_append :
    unwinding (inner ++ outer) e = unwinding inner e ++ unwinding outer (passOut inner e) := by
  induction inner generalizing e with
  | nil => rfl
  | cons p inner ih => simp only [List.cons_append,unwinding,ih]; rfl

@[simp] theorem opened_unwinding : opened (inner ++ outer) (unwinding inner e) = outer := by
  induction inner generalizing e with
  | nil => rfl
  | cons p inner ih => exact ih _

@[simp] theorem countP_raises_unwinding : (unwinding inner e).countP Mark.raises = 0 := by
  induction inner generalizing e with
  | nil => rfl
  | cons p inner ih =>
    rw [unwinding,List.countP_cons,ih]
    rfl

@[simp] theorem filterMap_event_unwinding : (unwinding inner e).filterMap Mark.event? = [] := by
  induction inner generalizing e with
  | nil => rfl
  | cons p inner ih => exact ih _

variable {inner e}

/-- At each place of an unwinding one parser is left and those around it remain. -/
lemma unwinding_split {front back : List (Mark ρ σ τ ε)} {m : Mark ρ σ τ ε}
    (h : unwinding inner e = front ++ m :: back) :
    ∃ left q outer, inner = left ++ q :: outer ∧ front = unwinding left e ∧
      m = .leave (.error (q.errorMap (passOut left e))) ∧
      back = unwinding outer (q.errorMap (passOut left e)) := by
  induction front generalizing inner e with
  | nil =>
    cases inner with
    | nil => simp [unwinding] at h
    | cons q outer =>
      obtain ⟨rfl,rfl⟩ : _ = m ∧ _ = back := by simpa [unwinding] using h
      exact ⟨[],q,outer,rfl,rfl,rfl,rfl⟩
  | cons m' front ih =>
    cases inner with
    | nil => simp [unwinding] at h
    | cons p inner =>
      obtain ⟨rfl,hrest⟩ : _ = m' ∧ unwinding inner (p.errorMap e) = front ++ m :: back := by
        simpa [unwinding] using h
      obtain ⟨left,q,outer,rfl,rfl,rfl,rfl⟩ := ih hrest
      exact ⟨p :: left,q,outer,rfl,rfl,rfl,rfl⟩

end

/-- A trail that raises no error, or raises one and does nothing then but to leave the parsers
that are open. What comes out is the error as `f` has it. -/
inductive Conduct (f : ε → ε) : Trail (Mark ρ σ τ ε) (Reply σ τ ε α) → Prop
  | calm {marks : List (Mark ρ σ τ ε)} {ending : Ending (Reply σ τ ε α)}
      (hcalm : ∀ m ∈ marks, m.Calm)
      (hanswer : ∀ r, ending = .answer r → r.isError = false ∧ ∀ outer, opened outer marks = outer) :
      Conduct f ⟨marks,ending⟩
  | raised (before : List (Mark ρ σ τ ε)) (origin : Mark ρ σ τ ε)
      (inner : List (AnyParser ρ σ τ ε)) (e : ε) (hcalm : ∀ m ∈ before, m.Calm)
      (horigin : origin.raises = true)
      (hopen : ∀ outer, opened outer (before ++ [origin]) = inner ++ outer) :
      Conduct f ⟨before ++ origin :: unwinding inner e,.answer (.error (f (passOut inner e)))⟩

namespace Conduct

variable {f : ε → ε} {w : Trail (Mark ρ σ τ ε) (Reply σ τ ε α)}

lemma answer {r : Reply σ τ ε α} (hr : r.isError = false) :
    Conduct f (⟨[],.answer r⟩ : Trail (Mark ρ σ τ ε) _) :=
  calm (by simp) fun r' h => by
    obtain rfl : r = r' := by simpa using h
    exact ⟨hr,fun _ => rfl⟩

lemma fault (reason : Fault) :
    Conduct f (⟨[],.fault reason⟩ : Trail (Mark ρ σ τ ε) (Reply σ τ ε α)) :=
  calm (by simp) fun r h => by simp at h

lemma cut : Conduct f (⟨[],.cut⟩ : Trail (Mark ρ σ τ ε) (Reply σ τ ε α)) :=
  calm (by simp) fun r h => by simp at h

/-- Calm marks that close what they open may stand before. -/
lemma after_calm {marks : List (Mark ρ σ τ ε)} (hcalm : ∀ m ∈ marks, m.Calm)
    (hopen : ∀ outer, opened outer marks = outer) (h : Conduct f w) :
    Conduct f ⟨marks ++ w.notes,w.ending⟩ := by
  cases h with
  | calm hcalm' hanswer =>
    refine calm (fun m hm => ?_) fun r hr => ?_
    · rcases List.mem_append.mp hm with hm | hm
      · exact hcalm m hm
      · exact hcalm' m hm
    · obtain ⟨hr,hstays⟩ := hanswer r hr
      exact ⟨hr,fun outer => by rw [opened_append,hopen,hstays]⟩
  | raised before origin inner e hcalm' horigin hopen' =>
    rw [← List.append_assoc]
    refine raised (marks ++ before) origin inner e (fun m hm => ?_) horigin fun outer => ?_
    · rcases List.mem_append.mp hm with hm | hm
      · exact hcalm m hm
      · exact hcalm' m hm
    · rw [List.append_assoc,opened_append,hopen,hopen']

/-- A continuation that passes errors on through `f` keeps the conduct. -/
theorem bind {k : Reply σ τ ε α → Trail (Mark ρ σ τ ε) (Reply σ τ ε β)} (hw : Conduct id w)
    (herror : ∀ e, k (.error e) = .pure (.error (f e)))
    (hk : ∀ r, r.isError = false → Conduct f (k r)) : Conduct f (w.bind k) := by
  cases hw with
  | @calm marks ending hcalm hanswer =>
    cases ending with
    | answer r =>
      obtain ⟨hr,hopen⟩ := hanswer r rfl
      exact (hk r hr).after_calm hcalm hopen
    | fault reason => exact calm hcalm fun r h => by simp at h
    | cut => exact calm hcalm fun r h => by simp at h
  | raised before origin inner e hcalm horigin hopen =>
    rw [Trail.bind_answer,herror]
    simpa [Trail.pure] using raised before origin inner e hcalm horigin hopen

/-- Marks around a parser keep the conduct. What comes out of them is the error as the parser has
it. -/
theorem between_marks {p : AnyParser ρ σ τ ε} (hp : p.isErrorLeaf = false)
    (hw : Conduct p.errorMap w) :
    Conduct id ((w.bind fun r => ⟨[.leave (r.map fun _ => ())],.answer r⟩).noting (.enter p)) := by
  have henter : (Mark.enter p : Mark ρ σ τ ε).Calm := ⟨hp,rfl⟩
  cases hw with
  | @calm marks ending hcalm hanswer =>
    have hmarks : ∀ m ∈ .enter p :: marks, m.Calm := List.forall_mem_cons.mpr ⟨henter,hcalm⟩
    cases ending with
    | answer r =>
      obtain ⟨hr,hopen⟩ := hanswer r rfl
      have hleave : (Mark.leave (r.map fun _ => ()) : Mark ρ σ τ ε).Calm := by
        cases r <;> simp_all [Mark.Calm,Mark.raises,Mark.returnsError,Outcome.map]
      show Conduct id ⟨(.enter p :: marks) ++ [.leave (r.map fun _ => ())],.answer r⟩
      refine calm (fun m hm => ?_) fun r' hr' => ?_
      · rcases List.mem_append.mp hm with hm | hm
        · exact hmarks m hm
        · obtain rfl := List.mem_singleton.mp hm
          exact hleave
      · obtain rfl : r = r' := by simpa using hr'
        refine ⟨hr,fun outer => ?_⟩
        show opened (p :: outer) (marks ++ [_]) = outer
        rw [opened_append,hopen]
        rfl
    | fault reason => exact calm hmarks fun r h => by simp [Trail.bind] at h
    | cut => exact calm hmarks fun r h => by simp [Trail.bind] at h
  | raised before origin inner e hcalm horigin hopen =>
    have hbefore : ∀ m ∈ .enter p :: before, m.Calm := List.forall_mem_cons.mpr ⟨henter,hcalm⟩
    have hinner : ∀ outer, opened outer (.enter p :: before ++ [origin]) =
        (inner ++ [p]) ++ outer := by
      intro outer
      rw [List.append_assoc]
      exact hopen (p :: outer)
    have h : Conduct id (⟨_,_⟩ : Trail (Mark ρ σ τ ε) (Reply σ τ ε α)) :=
      raised (.enter p :: before) origin (inner ++ [p]) e hbefore horigin hinner
    simpa [unwinding_append,unwinding,Trail.bind,Trail.noting,passOut,Outcome.map] using h

end Conduct
end Backtrack
