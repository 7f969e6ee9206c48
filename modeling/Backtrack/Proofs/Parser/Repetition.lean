import Backtrack.Process.Meets
import Backtrack.Proofs.Process.Gives
import Backtrack.Proofs.Process.Shape

/-!
What a repetition does. Rounds that succeed and shorten the input follow on each other in a chain,
and the repetition ends as the round after the longest chain decides. A round is not bounded by the
tokens of one buffer: it may go on with others, as long as they are fewer.
-/
namespace Backtrack

variable {ρ : Rules} {σ τ ε : Type} {Γ : List Type} {α β : Type}

namespace Action

section
variable (G : Grammar ρ σ τ ε) (a : Action (Callee ρ σ τ ε) σ τ ε α)

/-- Rounds that follow on each other, each of which succeeds and shortens the input. -/
inductive Chain : σ → Stream τ → List (Parsed σ τ α) → σ → Stream τ → Prop
  | nil (s : σ) (i : Stream τ) : Chain s i [] s i
  | cons {s t : σ} {i j : Stream τ} {r : Parsed σ τ α} {rounds : List (Parsed σ τ α)}
      (round : (a s i).Gives G (.ok (.success r))) (shorter : r.rest.length < i.length)
      (tail : Chain r.state r.rest rounds t j) : Chain s i (r :: rounds) t j

/-- No round prolongs a chain that ends here. -/
def Stops (t : σ) (j : Stream τ) : Prop :=
  ∀ r, (a t j).Gives G (.ok (.success r)) → j.length ≤ r.rest.length

/-- What the round at the end of a chain makes of the repetition. -/
inductive Exit (values : List α) (t : σ) (j : Stream τ) :
    Except Fault (Reply σ τ ε (List α)) → Prop
  | failure (last : (a t j).Gives G (.ok .failure)) : Exit values t j (.ok (.success ⟨t,j,values⟩))
  | error {e : ε} (last : (a t j).Gives G (.ok (.error e))) : Exit values t j (.ok (.error e))
  | fault {reason : Fault} (last : (a t j).Gives G (.error reason)) :
      Exit values t j (.error reason)
  | stalled {r : Parsed σ τ α} (last : (a t j).Gives G (.ok (.success r)))
      (notShorter : j.length ≤ r.rest.length) : Exit values t j (.error (.stalled j.offset))

/-- The answer to a call that stands for the action: what it is followed to, up to a depth of its
own calls. -/
def roundAnswers (n : ℕ) : Answers (Hole fun _ : Unit => α) σ τ ε Event :=
  fun h s i => (h.fill (fun _ => a) s i).follow id (G.answers n)

/-- Where the rounds of a repetition begin, as far as it is followed up to a depth of calls. The
repeated action is put in place of a call, and the calls are told apart from all that it does. -/
def roundStarts (n : ℕ) (s : σ) (i : Stream τ) : List (σ × Stream τ) :=
  ((hole ()).many0 s i : Process (Hole fun _ : Unit => α) σ τ ε _).called (a.roundAnswers G n)

end

variable {G : Grammar ρ σ τ ε} {a : Action (Callee ρ σ τ ε) σ τ ε α} {s t t' : σ}
  {i j j' : Stream τ} {rounds other : List (Parsed σ τ α)}

/-- The rounds are counted on what the repetition does: to answer its calls by the repeated action is
to follow the repetition. -/
theorem follow_many0 (n : ℕ) : (a.many0 s i).follow id (G.answers n) =
    ((hole ()).many0 s i : Process (Hole fun _ : Unit => α) σ τ ε _).follow id
      (a.roundAnswers G n) := by
  unfold roundAnswers
  rw [← Process.follow_graft (Hole.fill fun _ => a)]
  have hgraft : graft (Hole.fill fun _ : Unit => a) (hole ()).many0 = a.many0 := by simp
  exact congrArg (fun b => (b s i).follow id (G.answers n)) hgraft.symm

lemma Chain.length_le (h : a.Chain G s i rounds t j) : rounds.length + j.length ≤ i.length := by
  induction h with
  | nil => simp
  | cons round shorter tail ih =>
    simp only [List.length_cons]
    omega

/-- A chain that no round prolongs goes on from every other chain. -/
lemma Chain.isPrefix_of_stops (h : a.Chain G s i other t' j') (hr : a.Chain G s i rounds t j)
    (hstops : a.Stops G t j) : other <+: rounds := by
  induction h generalizing rounds with
  | nil => exact List.nil_prefix
  | cons round shorter tail ih =>
    cases hr with
    | nil => exact absurd (hstops _ round) (Nat.not_le.mpr shorter)
    | cons round' shorter' tail' =>
      -- both chains begin with what the action gives here, which is only one thing
      obtain rfl := Outcome.success.inj (Except.ok.inj (round.unique round'))
      exact List.cons_prefix_cons.mpr ⟨rfl,ih tail'⟩

lemma Exit.stops {values : List α} {result : Except Fault (Reply σ τ ε (List α))}
    (h : a.Exit G values t j result) : a.Stops G t j := by
  intro r hr
  cases h with
  | failure last => cases last.unique hr
  | error last => cases last.unique hr
  | fault last => cases last.unique hr
  | stalled last notShorter =>
    obtain rfl := Outcome.success.inj (Except.ok.inj (last.unique hr))
    exact notShorter

/-- If every round ends, a chain comes to an exit. -/
lemma exists_chain_exit (halts : ∀ s i, ∃ result, (a s i).Gives G result) (n : ℕ) (s : σ)
    (i : Stream τ) (hi : i.length = n) : ∃ rounds t j, a.Chain G s i rounds t j ∧
      ∀ values, ∃ result, a.Exit G values t j result := by
  -- a round that is not the last one leaves less for the rest, in whatever buffer
  induction n using Nat.strongRecOn generalizing s i with
  | _ n ih =>
    have hexit : (∀ values, ∃ result, a.Exit G values s i result) →
        ∃ rounds t j, a.Chain G s i rounds t j ∧ ∀ values, ∃ result, a.Exit G values t j result :=
      fun h => ⟨[],s,i,.nil s i,h⟩
    obtain ⟨result,hround⟩ := halts s i
    cases result with
    | error reason => exact hexit fun _ => ⟨_,.fault hround⟩
    | ok reply =>
      cases reply with
      | failure => exact hexit fun _ => ⟨_,.failure hround⟩
      | error e => exact hexit fun _ => ⟨_,.error hround⟩
      | success r =>
        by_cases hr : r.rest.length < i.length
        · obtain ⟨rounds,t,j,htail,h⟩ := ih _ (by omega) r.state r.rest rfl
          exact ⟨r :: rounds,t,j,.cons hround hr htail,h⟩
        · exact hexit fun _ => ⟨_,.stalled hround (by omega)⟩

lemma many0From_gives_of_exit {before : List α} {result : Except Fault (Reply σ τ ε (List α))}
    (h : a.Chain G s i rounds t j)
    (hexit : a.Exit G (before.reverse ++ rounds.map (·.value)) t j result) :
    (many0From a before s i).Gives G result := by
  induction h generalizing before with
  | nil s i =>
    rw [List.map_nil,List.append_nil] at hexit
    rw [many0From,Process.gives_bind]
    cases hexit with
    | failure last => exact .inl ⟨_,last,Process.gives_emit_done.mpr rfl⟩
    | error last => exact .inl ⟨_,last,Process.gives_done.mpr rfl⟩
    | fault last => exact .inr ⟨_,last,rfl⟩
    | @stalled r last notShorter =>
      refine .inl ⟨_,last,?_⟩
      simp only [Nat.not_lt.mpr notShorter,if_false]
      exact Process.gives_fault.mpr rfl
  | @cons s t i j r rounds round shorter tail ih =>
    rw [many0From,Process.gives_bind]
    refine .inl ⟨_,round,?_⟩
    simp only [shorter,if_true]
    exact ih (by simpa using hexit)

lemma exit_of_many0From_gives {before : List α} {result : Except Fault (Reply σ τ ε (List α))}
    (h : (many0From a before s i).Gives G result) : ∃ rounds t j, a.Chain G s i rounds t j ∧
      a.Exit G (before.reverse ++ rounds.map (·.value)) t j result := by
  generalize hn : i.length = n at h
  induction n using Nat.strongRecOn generalizing before s i with
  | _ n ih =>
    have hexit : a.Exit G before.reverse s i result → ∃ rounds t j, a.Chain G s i rounds t j ∧
        a.Exit G (before.reverse ++ rounds.map (·.value)) t j result :=
      fun h => ⟨[],s,i,.nil s i,by simpa using h⟩
    rw [many0From,Process.gives_bind] at h
    rcases h with ⟨reply,hround,h⟩ | ⟨reason,hround,rfl⟩
    · cases reply with
      | failure =>
        obtain rfl := Process.gives_emit_done.mp h
        exact hexit (.failure hround)
      | error e =>
        obtain rfl := Process.gives_done.mp h
        exact hexit (.error hround)
      | success r =>
        by_cases hr : r.rest.length < i.length
        · simp only [hr,if_true] at h
          obtain ⟨rounds,t,j,htail,hlast⟩ := ih _ (by omega) h rfl
          exact ⟨r :: rounds,t,j,.cons hround hr htail,by simpa using hlast⟩
        · simp only [hr,if_false] at h
          obtain rfl := Process.gives_fault.mp h
          exact hexit (.stalled hround (by omega))
    · exact hexit (.fault hround)

/-- A repetition ends as the round after a chain decides. -/
theorem many0_gives_iff {result : Except Fault (Reply σ τ ε (List α))} :
    (a.many0 s i).Gives G result ↔
      ∃ rounds t j, a.Chain G s i rounds t j ∧ a.Exit G (rounds.map (·.value)) t j result :=
  ⟨exit_of_many0From_gives,fun ⟨_,_,_,h,hexit⟩ => many0From_gives_of_exit h hexit⟩

variable (G) in
/-- The rounds of a repetition are a chain. It is cut off only where the repetition is. -/
lemma exists_chain_of_called (a : Action (Callee ρ σ τ ε) σ τ ε α) (n : ℕ) (before : List α)
    (s : σ) (i : Stream τ) : ∃ rounds t j, a.Chain G s i rounds t j ∧
      (many0From (hole ()) before s i : Process (Hole fun _ : Unit => α) σ τ ε _).called
          (a.roundAnswers G n) =
        (s,i) :: rounds.map (fun r => (r.state,r.rest)) ∧
      (((many0From a before s i).follow id (G.answers n)).ending ≠ .cut → a.Stops G t j) := by
  generalize hn : i.length = m
  induction m using Nat.strongRecOn generalizing before s i with
  | _ m ih =>
    have hlast : ∀ {result} {uncut : Prop}, a.Exit G [] s i result → ∃ rounds t j,
        a.Chain G s i rounds t j ∧ [(s,i)] = (s,i) :: rounds.map (fun r => (r.state,r.rest)) ∧
          (uncut → a.Stops G t j) :=
      fun hexit => ⟨[],s,i,.nil s i,rfl,fun _ => hexit.stops⟩
    rw [many0From,many0From,Process.follow_bind]
    cases hw : (a s i).follow id (G.answers n) with
    | mk notes ending =>
      have hgives : ∀ result, ending = .ofExcept result → (a s i).Gives G result :=
        fun result h => Process.gives_iff_follow.mpr ⟨n,notes,by rw [hw,h]⟩
      simp only [hole,call,Process.bind,Process.called,roundAnswers,Hole.fill_part,hw]
      cases ending with
      | cut => exact ⟨[],s,i,.nil s i,rfl,fun h => absurd rfl h⟩
      | fault reason => exact hlast (.fault (hgives (.error reason) rfl))
      | answer reply =>
        have hround := hgives (.ok reply) rfl
        cases reply with
        | failure => exact hlast (.failure hround)
        | error e => exact hlast (.error hround)
        | success r =>
          by_cases hr : r.rest.length < i.length
          · obtain ⟨rounds,t,j,htail,hcalled,hstops⟩ :=
              ih _ (by omega) (r.value :: before) r.state r.rest rfl
            refine ⟨r :: rounds,t,j,.cons hround hr htail,?_,fun hcut => hstops ?_⟩
            · simpa [hr] using hcalled
            · simpa [hr,Trail.bind] using hcut
          · simp only [hr,if_false]
            exact hlast (.stalled hround (by omega))

lemma roundStarts_length_le (n : ℕ) : (a.roundStarts G n s i).length ≤ i.length + 1 := by
  obtain ⟨rounds,t,j,hchain,hcalled,-⟩ := exists_chain_of_called G a n [] s i
  have hle := hchain.length_le
  show (Process.called _ (many0From (hole ()) [] s i)).length ≤ _
  rw [hcalled]
  simp only [List.length_cons,List.length_map]
  omega

end Action

/-- If a parser ends on every state and input, so does its repetition, which begins the parser at
the start and after each round of the one chain that no round prolongs, and nowhere else. The rounds
are counted on the repetition itself: followed up to any depth, it is the repetition of a call that
the parser answers, and a round is such a call. The repetition succeeds if the parser fails after the
chain, with the values of the rounds, commits to the error that the parser commits to, and stops with
the parser's fault, or with a fault of its own if the parser succeeds and leaves no fewer tokens. It
never fails. -/
theorem Parser.many0_follows_chain {env : Env ρ σ τ ε Γ} {p : Parser ρ σ τ ε Γ α}
    (halts : ∀ s i, (p.action env s i).config.Halts G) (s : σ) (i : Stream τ) :
    ((many0 p).action env s i).config.Halts G ∧
    (∀ n, ((many0 p).action env s i).follow id (G.answers n) =
      ((Action.hole ()).many0 s i : Process (Hole fun _ : Unit => α) σ τ ε _).follow id
        ((p.action env).roundAnswers G n)) ∧
    (∀ n, ((p.action env).roundStarts G n s i).length ≤ i.length + 1) ∧
    (∃ rounds t j, (p.action env).Chain G s i rounds t j ∧
      (∀ other t' j', (p.action env).Chain G s i other t' j' → other <+: rounds) ∧
      ∀ n, (((many0 p).action env s i).follow id (G.answers n)).ending ≠ .cut →
        (p.action env).roundStarts G n s i = (s,i) :: rounds.map fun r => (r.state,r.rest)) ∧
    ¬ ((many0 p).action env s i).Gives G (.ok .failure) ∧
    (∀ t j values, ((many0 p).action env s i).Gives G (.ok (.success ⟨t,j,values⟩)) ↔
      ∃ rounds, (p.action env).Chain G s i rounds t j ∧ values = rounds.map (·.value) ∧
        (p.action env t j).Gives G (.ok .failure)) ∧
    (∀ e, ((many0 p).action env s i).Gives G (.ok (.error e)) ↔
      ∃ rounds t j, (p.action env).Chain G s i rounds t j ∧
        (p.action env t j).Gives G (.ok (.error e))) ∧
    ∀ reason, ((many0 p).action env s i).Gives G (.error reason) ↔
      ∃ rounds t j, (p.action env).Chain G s i rounds t j ∧
        ((p.action env t j).Gives G (.error reason) ∨ reason = .stalled j.offset ∧
          ∃ r, (p.action env t j).Gives G (.ok (.success r)) ∧ j.length ≤ r.rest.length) := by
  have hround : ∀ s i, ∃ result, (p.action env s i).Gives G result :=
    fun s i => Process.halts_iff_gives.mp (halts s i)
  have hmany : ∀ result, ((many0 p).action env s i).Gives G result ↔
      ∃ rounds t j, (p.action env).Chain G s i rounds t j ∧
        (p.action env).Exit G (rounds.map (·.value)) t j result := fun _ => Action.many0_gives_iff
  obtain ⟨rounds,t,j,hchain,hexit⟩ := Action.exists_chain_exit hround _ s i rfl
  obtain ⟨result,hlast⟩ := hexit (rounds.map (·.value))
  have hlongest : ∀ other t' j', (p.action env).Chain G s i other t' j' → other <+: rounds :=
    fun _ _ _ h => h.isPrefix_of_stops hchain hlast.stops
  refine ⟨Process.halts_iff_gives.mpr ⟨result,(hmany result).mpr ⟨rounds,t,j,hchain,hlast⟩⟩,
    Action.follow_many0,Action.roundStarts_length_le,
    ⟨rounds,t,j,hchain,hlongest,fun n hcut => ?_⟩,fun h => ?_,fun t j values => ?_,fun e => ?_,
    fun reason => ?_⟩
  · obtain ⟨other,t',j',hother,hcalled,hstops⟩ :=
      Action.exists_chain_of_called G (p.action env) n [] s i
    have hle := (hchain.isPrefix_of_stops hother (hstops hcut)).length_le
    rw [← (hlongest _ _ _ hother).eq_of_length_le hle]
    exact hcalled
  · obtain ⟨_,_,_,-,hexit⟩ := (hmany _).mp h
    cases hexit
  · rw [hmany]
    constructor
    · rintro ⟨rounds,_,_,hchain,hexit⟩
      cases hexit with
      | failure last => exact ⟨rounds,hchain,rfl,last⟩
    · rintro ⟨rounds,hchain,rfl,last⟩
      exact ⟨rounds,_,_,hchain,.failure last⟩
  · rw [hmany]
    constructor
    · rintro ⟨rounds,t,j,hchain,hexit⟩
      cases hexit with
      | error last => exact ⟨rounds,t,j,hchain,last⟩
    · rintro ⟨rounds,t,j,hchain,last⟩
      exact ⟨rounds,t,j,hchain,.error last⟩
  · rw [hmany]
    constructor
    · rintro ⟨rounds,t,j,hchain,hexit⟩
      cases hexit with
      | fault last => exact ⟨rounds,t,j,hchain,.inl last⟩
      | stalled last notShorter => exact ⟨rounds,t,j,hchain,.inr ⟨rfl,_,last,notShorter⟩⟩
    · rintro ⟨rounds,t,j,hchain,last | ⟨rfl,r,last,notShorter⟩⟩
      · exact ⟨rounds,t,j,hchain,.fault last⟩
      · exact ⟨rounds,t,j,hchain,.stalled last notShorter⟩

/-- A round on two tokens goes on with another buffer of one token, where the next round fails. -/
theorem Parser.many0_follows_chain_across_buffers :
    let p : Parser Rules.none Unit Char ℕ [] Unit :=
      .bind (.check (· == 'a') .item) fun _ => .put (.ofList 1 ['b'])
    (∀ s i, (p.action .empty s i).config.Halts Grammar.none) ∧
      ((many0 p).action .empty () (.ofList 0 ['a','a'])).Gives Grammar.none
        (.ok (.success ⟨(),.ofList 1 ['b'],[()]⟩)) := by
  intro p
  have halts : ∀ s i, (p.action .empty s i).config.Halts Grammar.none := by
    intro s i
    have hput : ∀ r : Parsed Unit Char Char, r.rest.length < i.length → Process.Meets Grammar.none
        (Action.put (.ofList 1 ['b']) r.state r.rest : Process _ Unit Char ℕ _)
          (Reply.Leaves 2) := fun _ _ => .done (by decide : 1 < 2)
    exact (Action.andThen_leaves (Action.check_leaves Action.item_leaves) hput).halts
  have hround : (p.action .empty () (.ofList 0 ['a','a'])).Gives Grammar.none
      (.ok (.success ⟨(),.ofList 1 ['b'],()⟩)) := Process.gives_iff_follow.mpr ⟨0,[.item 0],rfl⟩
  have hlast : (p.action .empty () (.ofList 1 ['b'])).Gives Grammar.none (.ok .failure) :=
    Process.gives_iff_follow.mpr ⟨0,[.item 0],rfl⟩
  obtain ⟨-,-,-,-,-,hsuccess,-⟩ := many0_follows_chain halts () (.ofList 0 ['a','a'])
  exact ⟨halts,(hsuccess () (.ofList 1 ['b']) [()]).mpr
    ⟨_,.cons hround (by decide) (.nil _ _),rfl,hlast⟩⟩

end Backtrack
