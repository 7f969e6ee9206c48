import Backtrack.Proofs.Parser.Conduct

/-!
Committed errors. Where nothing catches them, an error that a parser returns ends the run.
-/
namespace Backtrack

variable {ρ : Rules} {σ τ ε : Type} {α : Type}

section
variable {μ : Type*}

/-- A place in a list is behind a front part that holds nothing of its kind. -/
lemma split_behind {P : μ → Prop} {front rest before after : List μ} {m : μ}
    (h : front ++ rest = before ++ m :: after) (hm : P m) (hfront : ∀ x ∈ front, ¬ P x) :
    ∃ between, before = front ++ between ∧ rest = between ++ m :: after := by
  rcases List.append_eq_append_iff.mp h with ⟨between,rfl,hrest⟩ | ⟨tail,rfl,hafter⟩
  · exact ⟨between,rfl,hrest⟩
  · cases tail with
    | nil => exact ⟨[],by simp,by simpa using hafter.symm⟩
    | cons x tail =>
      obtain ⟨rfl,-⟩ : m = x ∧ _ := by simpa using hafter
      exact absurd hm (hfront m (by simp))

/-- A place in a list is before the last entry, when that is another one. -/
lemma split_before_last {xs before after : List μ} {m x : μ}
    (h : xs ++ [x] = before ++ m :: after) (hx : m ≠ x) :
    ∃ back, after = back ++ [x] ∧ xs = before ++ m :: back := by
  rcases List.eq_nil_or_concat after with rfl | ⟨back,y,rfl⟩
  · obtain ⟨-,hxm⟩ := List.append_inj' h rfl
    exact absurd (by simpa using hxm.symm) hx
  · have h' : xs ++ [x] = (before ++ m :: back) ++ [y] := by simpa using h
    obtain ⟨rfl,hxy⟩ := List.append_inj' h' rfl
    obtain rfl : x = y := by simpa using hxy
    exact ⟨back,by simp,rfl⟩

end

variable {G : Grammar ρ σ τ ε} {p : Parser ρ σ τ ε [] α}

lemma Parser.watch_eq (n : ℕ) (s : σ) (i : Stream τ) : p.watch G n s i =
    (((p.watched .empty s i).follow .event (Note.answers (G.watch n))).bind fun r =>
      ⟨[.event (.runFinished r.verdict (Action.consumed i r))],.answer r⟩).noting
        (.event (.run i.length)) :=
  Process.follow_run _ s i

/-- A watched run is calm throughout, or it raises one error and unwinds. -/
lemma Parser.watch_cases (hG : ∀ name, (G name).CatchFree) (hp : p.CatchFree) (n : ℕ) (s : σ)
    (i : Stream τ) :
    ((∀ m ∈ (p.watch G n s i).notes, m.Calm) ∧
        ∀ e, (p.watch G n s i).ending ≠ .answer (.error e)) ∨
      ∃ before origin inner e, (∀ m ∈ before, m.Calm) ∧ origin.raises = true ∧
        opened [] (.event (.run i.length) :: before ++ [origin]) = inner ∧
        p.watch G n s i = ⟨(.event (.run i.length) :: before ++ [origin]) ++
            (unwinding inner e ++ [.event (.runFinished .error 0)]),
          .answer (.error (passOut inner e))⟩ := by
  have hcalls : ∀ {α : Type} (c : Callee ρ σ τ ε α), c.CatchFree → ∀ s i,
      Conduct id (G.watch n c s i) := fun c hc s i => G.watch_conduct hG n hc s i
  have henv : (Env.empty : Env ρ σ τ ε []).CatchFree := trivial
  have hw := Parser.watched_conducts hcalls hp henv s i
  have hrun : (Mark.event (.run i.length) : Mark ρ σ τ ε).Calm := ⟨rfl,rfl⟩
  rw [Process.Conducts] at hw
  rw [watch_eq]
  generalize (p.watched .empty s i).follow .event (Note.answers (G.watch n)) = w at hw
  cases hw with
  | @calm marks ending hcalm hanswer =>
    have hmarks : ∀ m ∈ .event (.run i.length) :: marks, m.Calm :=
      List.forall_mem_cons.mpr ⟨hrun,hcalm⟩
    left
    cases ending with
    | answer r =>
      refine ⟨fun m hm => ?_,fun e he => ?_⟩
      · rcases List.mem_append.mp (show m ∈ (.event (.run i.length) :: marks) ++ [_] from hm) with
          hm | hm
        · exact hmarks m hm
        · obtain rfl := List.mem_singleton.mp hm
          exact ⟨rfl,rfl⟩
      · obtain rfl : r = .error e := by simpa [Trail.bind] using he
        simpa using (hanswer _ rfl).1
    | fault reason => exact ⟨hmarks,fun e he => by simp [Trail.bind] at he⟩
    | cut => exact ⟨hmarks,fun e he => by simp [Trail.bind] at he⟩
  | raised before origin inner e hcalm horigin hopen =>
    have hinner : opened [] (.event (.run i.length) :: before ++ [origin]) = inner :=
      (hopen []).trans (List.append_nil inner)
    refine .inr ⟨before,origin,inner,e,hcalm,horigin,hinner,?_⟩
    simp [Trail.bind,Trail.noting,Outcome.verdict,Action.consumed]

/-- After a parser is left with an error the parsers around it are left with theirs, and then the
run is over. -/
lemma Parser.watch_after_error (hG : ∀ name, (G name).CatchFree) (hp : p.CatchFree) {n : ℕ} {s : σ}
    {i : Stream τ} {before after : List (Mark ρ σ τ ε)} {e : ε}
    (h : (p.watch G n s i).notes = before ++ .leave (.error e) :: after) :
    ∃ q outer, opened [] before = q :: outer ∧
      after = unwinding outer e ++ [.event (.runFinished .error 0)] ∧
      (p.watch G n s i).ending = .answer (.error (passOut outer e)) := by
  rcases watch_cases hG hp n s i with ⟨hcalm,-⟩ | ⟨front,origin,inner,e',hcalm,horigin,hopen,hw⟩
  · have hm := (hcalm (.leave (.error e)) (by simp [h])).2
    simp [Mark.returnsError] at hm
  · rw [hw] at h ⊢
    -- no parser is left with an error before the error comes up, nor by the end of the run
    have hfront : ∀ m ∈ .event (.run i.length) :: front ++ [origin], ¬ m.returnsError = true := by
      intro m hm
      simp only [List.cons_append,List.mem_cons,List.mem_append,List.not_mem_nil,or_false] at hm
      rcases hm with rfl | hm | rfl
      · simp [Mark.returnsError]
      · simp [(hcalm m hm).2]
      · simp [Mark.not_returnsError_of_raises horigin]
    obtain ⟨between,rfl,hrest⟩ :=
      split_behind (P := fun m => m.returnsError = true) h rfl hfront
    obtain ⟨back,rfl,hsplit⟩ := split_before_last hrest (by simp)
    obtain ⟨left,q,outer,rfl,rfl,hq,rfl⟩ := unwinding_split hsplit
    obtain rfl : e = _ := by simpa using hq
    refine ⟨q,outer,?_,rfl,?_⟩
    · rw [opened_append,hopen,opened_unwinding]
    · rw [passOut_append]
      rfl

/-- A run under watch that ends in an error has raised one. What it reports is quiet up to where
the error comes up, and nothing is reported after that but the end of the run. -/
lemma Parser.watch_of_error (hG : ∀ name, (G name).CatchFree) (hp : p.CatchFree) {n : ℕ} {s : σ}
    {i : Stream τ} {e : ε} (h : (p.watch G n s i).ending = .answer (.error e)) :
    (p.watch G n s i).notes.countP Mark.raises = 1 ∧
      ∃ quiet last, (p.watch G n s i).notes.filterMap Mark.event? =
          .run i.length :: quiet ++ last ++ [.runFinished .error 0] ∧
        (∀ offset, .commitEscalated offset ∉ quiet) ∧
        (last = [] ∨ ∃ offset, last = [.commitEscalated offset]) := by
  rcases watch_cases hG hp n s i with ⟨-,hne⟩ | ⟨before,origin,inner,e',hcalm,horigin,-,hw⟩
  · exact absurd h (hne e)
  · have hbefore : before.countP Mark.raises = 0 :=
      List.countP_eq_zero.mpr fun m hm => by simp [(hcalm m hm).1]
    have hrun : (Mark.event (.run i.length) : Mark ρ σ τ ε).raises = false := rfl
    have hend : (Mark.event (.runFinished .error 0) : Mark ρ σ τ ε).raises = false := rfl
    rw [hw]
    refine ⟨?_,before.filterMap Mark.event?,origin.event?.toList,?_,?_,?_⟩
    · simp [hbefore,horigin,hrun,hend]
    · cases horigin' : origin.event? <;> simp [horigin']
    · intro offset hoffset
      obtain ⟨m,hm,he⟩ := List.mem_filterMap.mp hoffset
      exact (hcalm m hm).event?_ne offset he
    · rcases Mark.event?_of_raises horigin with h | ⟨offset,h⟩
      · exact .inl (by rw [h]; rfl)
      · exact .inr ⟨offset,by rw [h]; rfl⟩

/-- While no parser catches errors, an error that any parser returns ends the run: no parser is
entered after it and no event reported but the end of the run, and the parsers around are left
with the error, each of which transforms it. A run that ends in an error has raised one error, and
an escalation is the last thing it reports before its end. -/
theorem Parser.error_ends_run (hG : ∀ name, (G name).CatchFree) (hp : p.CatchFree) (s : σ)
    (i : Stream τ) :
    (∀ n before e after, (p.watch G n s i).notes = before ++ .leave (.error e) :: after →
      ∃ q outer, opened [] before = q :: outer ∧
        after = unwinding outer e ++ [.event (.runFinished .error 0)] ∧
        (p.run s i).config.Ends G
          ⟨.ok (.error (passOut outer e)),(p.watch G n s i).notes.filterMap Mark.event?⟩) ∧
    ∀ e events, (p.run s i).config.Ends G ⟨.ok (.error e),events⟩ →
      (∃ n, (p.watch G n s i).unmark = ⟨events,.answer (.error e)⟩ ∧
        (p.watch G n s i).notes.countP Mark.raises = 1) ∧
      ∃ quiet last, events = .run i.length :: quiet ++ last ++ [.runFinished .error 0] ∧
        (∀ offset, .commitEscalated offset ∉ quiet) ∧
        (last = [] ∨ ∃ offset, last = [.commitEscalated offset]) := by
  constructor
  · intro n before e after h
    obtain ⟨q,outer,hopen,hafter,hending⟩ := watch_after_error hG hp h
    refine ⟨q,outer,hopen,hafter,ends_iff_watch.mpr ⟨n,?_⟩⟩
    simp only [Trail.unmark,hending,Ending.ofExcept]
  · intro e events h
    obtain ⟨n,hn⟩ := ends_iff_watch.mp h
    have hevents : (p.watch G n s i).notes.filterMap Mark.event? = events :=
      congrArg Trail.notes hn
    obtain ⟨hraises,hquiet⟩ := watch_of_error hG hp (congrArg Trail.ending hn)
    rw [hevents] at hquiet
    exact ⟨⟨n,hn,hraises⟩,hquiet⟩

/-- A committed failure in the left side of a choice: the right side is not tried. -/
theorem Parser.error_ends_run_of_commit :
    let p : Parser Rules.none Unit Unit ℕ [] Unit :=
      .mapError (· + 1) (.plus (.commit 7 .zero) (.pure ()))
    (∀ name, (Grammar.none name : Parser Rules.none Unit Unit ℕ [] _).CatchFree) ∧ p.CatchFree ∧
      (p.run () (.ofList 0 [])).config.Ends Grammar.none
        ⟨.ok (.error 8),[.run 0,.commitEscalated 0,.runFinished .error 0]⟩ := by
  intro p
  have hG : ∀ name, (Grammar.none name : Parser Rules.none Unit Unit ℕ [] _).CatchFree :=
    fun name => name.elim
  have hp : p.CatchFree := ⟨trivial,trivial⟩
  refine ⟨hG,hp,?_⟩
  let choice : Parser Rules.none Unit Unit ℕ [] Unit := .plus (.commit 7 .zero) (.pure ())
  let commit : Parser Rules.none Unit Unit ℕ [] Unit := .commit 7 .zero
  let zero : Parser Rules.none Unit Unit ℕ [] Unit := .zero
  obtain ⟨q,outer,hopen,-,hends⟩ := (error_ends_run hG hp () (.ofList 0 [])).1 0
    [.event (.run 0),.enter ⟨p⟩,.enter ⟨choice⟩,.enter ⟨commit⟩,.enter ⟨zero⟩,.leave .failure,
      .event (.commitEscalated 0)]
    7 [.leave (.error 7),.leave (.error 8),.event (.runFinished .error 0)] rfl
  obtain ⟨rfl,rfl⟩ : _ = q ∧ _ = outer := by simpa [opened,Mark.openAfter] using hopen
  exact hends

end Backtrack
