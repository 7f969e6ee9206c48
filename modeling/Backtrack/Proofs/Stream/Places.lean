import Backtrack.Stream.Workspace
import Mathlib.Data.List.Infix
import Mathlib.Tactic.Common

/-!
Streams and the places where they stand. A stream is made from new tokens, begun again on the buffer
of an earlier stream, a clone of one, or what is left of one behind its first token. Whatever is done
to a workspace, the offset of a stream counts the tokens that were split off on the way to it, so it
never leaves the buffer, and a stream is a suffix of another exactly if both come from the same
tokens and what is left of the one is a suffix of what is left of the other.
-/
namespace Backtrack.Stream

universe u

variable {τ : Type u}

/-- The slice of the buffer from the offset on. From beyond the end there is none. -/
def slice? (s : Stream τ) : Option (List τ) :=
  if s.offset ≤ s.buffer.tokens.size then some (s.buffer.tokens.extract s.offset).toList else none

/-- The size of the buffer less the offset. There is none below zero. -/
def length? (s : Stream τ) : Option ℕ :=
  if s.offset ≤ s.buffer.tokens.size then some (s.buffer.tokens.size - s.offset) else none

lemma Valid.slice?_eq {s : Stream τ} (h : s.Valid) : s.slice? = some s.remaining := by
  have hle : s.offset ≤ s.buffer.tokens.size := h
  rw [slice?,if_pos hle,remaining]
  simp

lemma Valid.length?_eq {s : Stream τ} (h : s.Valid) : s.length? = some s.length := by
  have hle : s.offset ≤ s.buffer.tokens.size := h
  rw [length?,if_pos hle,length]

lemma splitFirst?_eq_none_iff {s : Stream τ} : s.splitFirst? = none ↔ s.remaining = [] := by
  rw [splitFirst?,Option.map_eq_none_iff,first?_eq_head?,List.head?_eq_none_iff]

/-- A stream with tokens left is split into the first of them and the others. -/
lemma exists_splitFirst?_iff {s : Stream τ} {token : τ} {left : List τ} :
    (∃ rest, s.splitFirst? = some (token,rest) ∧ rest.remaining = left) ↔
      s.remaining = token :: left := by
  cases h : s.remaining with
  | nil => simp [splitFirst?_eq_none h]
  | cons first others => simp [splitFirst?_eq_some h,h]

/-- What is done to a workspace: tokens are put into a new buffer, the buffer of a stream is read
again from its first token, a stream is cloned, or its first token is split off. -/
inductive Change (τ : Type u)
  | make (tokens : List τ)
  | restart (number : ℕ)
  | clone (number : ℕ)
  | split (number : ℕ)

namespace Workspace

/-- A stream that reads the buffer of another one from its first token. -/
def restart (w : Workspace τ) (number : ℕ) : ℕ × Workspace τ :=
  w.keep { w.get number with offset := 0 }

/-- The workspace after a change. From a number that was never made nothing is derived, and where no
token is left, none is split off. -/
def change (w : Workspace τ) : Change τ → Workspace τ
  | .make tokens => (w.make tokens).2
  | .restart number => if number < w.streams.size then (w.restart number).2 else w
  | .clone number => if number < w.streams.size then (w.clone number).2 else w
  | .split number => ((w.splitFirst? number).map fun (_,_,next) => next).getD w

end Workspace

/-- Where a stream stands: the construction that its tokens come from, the tokens that were split
off on the way to it, and those that are left. -/
structure Place (τ : Type u) where
  source : ℕ
  passed : List τ
  left : List τ

/-- The tokens of every construction, and the places of all streams. -/
structure Places (τ : Type u) where
  made : List (List τ) := []
  streams : List (Place τ) := []

namespace Place

variable {p q : Place τ}

/-- The stream that stands at a place. -/
def stream (p : Place τ) : Stream τ := ⟨⟨p.source,(p.passed ++ p.left).toArray⟩,p.passed.length⟩

lemma stream_valid (p : Place τ) : p.stream.Valid := by
  simp [stream,Valid]

@[simp] theorem remaining_stream (p : Place τ) : p.stream.remaining = p.left := by
  simp [stream,remaining]

@[simp] theorem length_stream (p : Place τ) : p.stream.length = p.left.length := by
  rw [← length_remaining,remaining_stream]

/-- The first place of the same buffer. -/
def start (p : Place τ) : Place τ := ⟨p.source,[],p.passed ++ p.left⟩

/-- The place behind the first token that is left. -/
def next? : Place τ → Option (Place τ)
  | ⟨_,_,[]⟩ => none
  | ⟨source,passed,token :: left⟩ => some ⟨source,passed ++ [token],left⟩

lemma splitFirst?_stream (p : Place τ) :
    p.stream.splitFirst?.map Prod.snd = p.next?.map stream := by
  obtain ⟨source,passed,_ | ⟨token,left⟩⟩ := p
  · rw [splitFirst?_eq_none (remaining_stream _),next?]
    rfl
  · rw [splitFirst?_eq_some (remaining_stream _),next?]
    simp [stream,advance]

lemma isSuffixOf_iff : p.stream.isSuffixOf q.stream = true ↔
    p.source = q.source ∧ q.passed.length ≤ p.passed.length := by
  rw [isSuffixOf,Bool.and_eq_true,beq_iff_eq,decide_eq_true_iff]
  rfl

end Place

namespace Places

variable {h : Places τ} {p q r : Place τ}

/-- Add a place that is derived from an earlier one. -/
def derive (h : Places τ) (number : ℕ) (f : Place τ → Option (Place τ)) : Places τ :=
  match h.streams[number]?.bind f with
  | none => h
  | some p => { h with streams := h.streams ++ [p] }

/-- The same change of places alone. -/
def change (h : Places τ) : Change τ → Places τ
  | .make tokens => ⟨h.made ++ [tokens],h.streams ++ [⟨h.made.length,[],tokens⟩]⟩
  | .restart number => h.derive number fun p => some p.start
  | .clone number => h.derive number some
  | .split number => h.derive number Place.next?

/-- The workspace with a stream at every place. -/
def workspace (h : Places τ) : Workspace τ :=
  ⟨(h.streams.map Place.stream).toArray,h.made.length⟩

lemma size_workspace (h : Places τ) : h.workspace.streams.size = h.streams.length := by
  simp [workspace]

lemma mem_workspace {s : Stream τ} :
    s ∈ h.workspace.streams ↔ ∃ p ∈ h.streams, p.stream = s := by
  simp [workspace]

lemma get_workspace {number : ℕ} (hp : h.streams[number]? = some p) :
    h.workspace.get number = p.stream := by
  simp [Workspace.get,workspace,hp]

lemma keep_workspace (h : Places τ) (p : Place τ) :
    (h.workspace.keep p.stream).2 = workspace { h with streams := h.streams ++ [p] } := by
  simp [Workspace.keep,workspace]

lemma derive_workspace (h : Places τ) (number : ℕ) (f : Place τ → Option (Place τ)) :
    (h.derive number f).workspace =
      (((h.streams[number]?.bind f).map Place.stream).map fun s =>
        (h.workspace.keep s).2).getD h.workspace := by
  rw [derive]
  cases h.streams[number]?.bind f with
  | none => rfl
  | some p => exact (keep_workspace h p).symm

lemma change_workspace (h : Places τ) (c : Change τ) :
    h.workspace.change c = (h.change c).workspace := by
  cases c with
  | make tokens =>
    simp [Workspace.change,Workspace.make,Workspace.keep,change,workspace,Place.stream,ofList,
      ofArray]
  | restart number =>
    rw [Workspace.change,change,size_workspace,derive_workspace]
    cases hp : h.streams[number]? with
    | none => exact if_neg (by simpa using hp)
    | some p =>
      obtain ⟨hlt,-⟩ := List.getElem?_eq_some_iff.mp hp
      rw [if_pos hlt,Workspace.restart,get_workspace hp]
      rfl
  | clone number =>
    rw [Workspace.change,change,size_workspace,derive_workspace]
    cases hp : h.streams[number]? with
    | none => exact if_neg (by simpa using hp)
    | some p =>
      obtain ⟨hlt,-⟩ := List.getElem?_eq_some_iff.mp hp
      rw [if_pos hlt,Workspace.clone,get_workspace hp]
      rfl
  | split number =>
    rw [Workspace.change,change,Workspace.splitFirst?,derive_workspace]
    cases hp : h.streams[number]? with
    | none =>
      -- a number that was never made stands for an empty stream
      have hget : h.workspace.get number = ofArray h.made.length #[] := by
        simp [Workspace.get,workspace,hp]
      rw [hget,splitFirst?_eq_none rfl]
      rfl
    | some p =>
      rw [get_workspace hp,Option.bind_some,← Place.splitFirst?_stream,Option.map_map,
        Option.map_map]
      rfl

/-- Every stream reads the tokens of the construction that it comes from. So streams that share a
buffer agree on what it holds. -/
def Sound (h : Places τ) : Prop :=
  ∀ p ∈ h.streams, h.made[p.source]? = some (p.passed ++ p.left)

lemma Sound.new : Sound ({} : Places τ) := by
  intro p hp
  simp at hp

lemma Sound.keep (hh : h.Sound) (hp : h.made[p.source]? = some (p.passed ++ p.left)) :
    Sound { h with streams := h.streams ++ [p] } := by
  intro q hq
  rcases List.mem_append.mp hq with hq | hq
  · exact hh q hq
  · obtain rfl := List.mem_singleton.mp hq
    exact hp

/-- A derived place must come from the same tokens. -/
lemma Sound.derive {f : Place τ → Option (Place τ)} (hh : h.Sound)
    (hf : ∀ p q, f p = some q → q.source = p.source ∧ q.passed ++ q.left = p.passed ++ p.left)
    (number : ℕ) : (h.derive number f).Sound := by
  rw [Places.derive]
  cases hq : h.streams[number]?.bind f with
  | none => exact hh
  | some q =>
    obtain ⟨p,hp,hpq⟩ := Option.bind_eq_some_iff.mp hq
    obtain ⟨hsource,htokens⟩ := hf p q hpq
    apply hh.keep
    rw [hsource,htokens]
    exact hh p (List.mem_of_getElem? hp)

lemma Sound.make (hh : h.Sound) (tokens : List τ) : (h.change (.make tokens)).Sound := by
  have hmade : Sound ⟨h.made ++ [tokens],h.streams⟩ := by
    intro p hp
    obtain ⟨hlt,-⟩ := List.getElem?_eq_some_iff.mp (hh p hp)
    rw [List.getElem?_append_left hlt]
    exact hh p hp
  exact hmade.keep (by simp)

lemma Sound.change (hh : h.Sound) (c : Change τ) : (h.change c).Sound := by
  cases c with
  | make tokens => exact hh.make tokens
  | restart number =>
    refine hh.derive (fun p q hpq => ?_) number
    obtain rfl := Option.some.inj hpq
    exact ⟨rfl,rfl⟩
  | clone number =>
    refine hh.derive (fun p q hpq => ?_) number
    obtain rfl := Option.some.inj hpq
    exact ⟨rfl,rfl⟩
  | split number =>
    refine hh.derive (fun p q hpq => ?_) number
    obtain ⟨source,passed,_ | ⟨token,left⟩⟩ := p
    · simp [Place.next?] at hpq
    · obtain rfl := Option.some.inj hpq
      exact ⟨rfl,(List.append_cons ..).symm⟩

/-- Streams of one construction read the same tokens. -/
lemma Sound.tokens_eq (hh : h.Sound) (hp : p ∈ h.streams) (hq : q ∈ h.streams)
    (hsource : p.source = q.source) : p.passed ++ p.left = q.passed ++ q.left := by
  have htokens := hh p hp
  rw [hsource,hh q hq] at htokens
  exact (Option.some.inj htokens).symm

lemma Sound.isSuffixOf_iff (hh : h.Sound) (hp : p ∈ h.streams) (hq : q ∈ h.streams) :
    p.stream.isSuffixOf q.stream = true ↔ p.source = q.source ∧ p.left <:+ q.left := by
  rw [Place.isSuffixOf_iff,and_congr_right_iff]
  intro hsource
  have htokens := hh.tokens_eq hp hq hsource
  have hlength := congrArg List.length htokens
  rw [List.length_append,List.length_append] at hlength
  constructor
  · intro hpassed
    exact List.suffix_of_suffix_length_le ⟨p.passed,htokens⟩ ⟨q.passed,rfl⟩ (by omega)
  · intro hleft
    have := hleft.length_le
    omega

lemma Sound.isSuffixOf_refl (hh : h.Sound) (hp : p ∈ h.streams) :
    p.stream.isSuffixOf p.stream = true :=
  (hh.isSuffixOf_iff hp hp).mpr ⟨rfl,List.suffix_rfl⟩

lemma Sound.isSuffixOf_trans (hh : h.Sound) (hp : p ∈ h.streams) (hq : q ∈ h.streams)
    (hr : r ∈ h.streams) (hpq : p.stream.isSuffixOf q.stream = true)
    (hqr : q.stream.isSuffixOf r.stream = true) : p.stream.isSuffixOf r.stream = true := by
  obtain ⟨hsource,hleft⟩ := (hh.isSuffixOf_iff hp hq).mp hpq
  obtain ⟨hsource',hleft'⟩ := (hh.isSuffixOf_iff hq hr).mp hqr
  exact (hh.isSuffixOf_iff hp hr).mpr ⟨hsource.trans hsource',hleft.trans hleft'⟩

/-- Two streams that are suffixes of each other are at the same place of the same buffer. -/
lemma Sound.isSuffixOf_antisymm (hh : h.Sound) (hp : p ∈ h.streams) (hq : q ∈ h.streams)
    (hpq : p.stream.isSuffixOf q.stream = true) (hqp : q.stream.isSuffixOf p.stream = true) :
    p.stream = q.stream := by
  obtain ⟨hsource,hle⟩ := Place.isSuffixOf_iff.mp hpq
  obtain ⟨-,hge⟩ := Place.isSuffixOf_iff.mp hqp
  rw [Place.stream,Place.stream,hh.tokens_eq hp hq hsource,hsource,Nat.le_antisymm hge hle]

lemma changes_workspace (changes : List (Change τ)) (h : Places τ) :
    changes.foldl .change h.workspace = (changes.foldl change h).workspace := by
  induction changes generalizing h with
  | nil => rfl
  | cons c changes ih => rw [List.foldl_cons,List.foldl_cons,change_workspace,ih]

lemma Sound.changes (hh : h.Sound) (changes : List (Change τ)) :
    (changes.foldl Places.change h).Sound := by
  induction changes generalizing h with
  | nil => exact hh
  | cons c changes ih => exact ih (hh.change c)

end Places

/-- The streams of a workspace stand where its changes lead. The offset of each counts the tokens
that were split off on the way to it and lies within the buffer, so there is a slice and a length:
they are those of the tokens of its construction behind the offset, of which the first one is split
off from the others. To be a suffix is to come from the same construction with a suffix of what is
left there. It is reflexive and transitive, and only equal streams are suffixes of each other. -/
theorem streams_follow_places (changes : List (Change τ)) :
    let w : Workspace τ := changes.foldl .change {}
    let h : Places τ := changes.foldl .change {}
    w.streams.size = h.streams.length ∧
    (∀ number p, h.streams[number]? = some p → let s := w.get number
      s ∈ w.streams ∧ h.made[p.source]? = some (p.passed ++ p.left) ∧
      s.offset = p.passed.length ∧ s.offset ≤ s.buffer.tokens.size ∧
      s.slice? = some s.remaining ∧ s.length? = some s.length ∧
      s.remaining = (p.passed ++ p.left).drop s.offset ∧ s.remaining = p.left ∧
      s.length = p.left.length ∧ s.first? = p.left.head? ∧
      (s.splitFirst? = none ↔ p.left = []) ∧
      (∀ token left, (∃ rest, s.splitFirst? = some (token,rest) ∧ rest.remaining = left) ↔
        p.left = token :: left) ∧
      ∀ number' q, h.streams[number']? = some q →
        (s.isSuffixOf (w.get number') = true ↔ p.source = q.source ∧ p.left <:+ q.left)) ∧
    ∀ s ∈ w.streams, s.isSuffixOf s = true ∧
      ∀ t ∈ w.streams, s.isSuffixOf t = true →
        (s.remaining <:+ t.remaining ∧ s.length ≤ t.length) ∧
        (t.isSuffixOf s = true → s = t ∧ ∀ [BEq τ] [ReflBEq τ], (s == t) = true) ∧
        ∀ u ∈ w.streams, t.isSuffixOf u = true → s.isSuffixOf u = true := by
  intro w h
  have hw : w = h.workspace := Places.changes_workspace changes {}
  have hh : h.Sound := Places.Sound.new.changes changes
  rw [hw]
  refine ⟨h.size_workspace,fun number p hp => ?_,fun s hs => ?_⟩
  · have hmem := List.mem_of_getElem? hp
    have hleft : p.stream.remaining = p.left := p.remaining_stream
    rw [Places.get_workspace hp,← hleft]
    refine ⟨Places.mem_workspace.mpr ⟨p,hmem,rfl⟩,?_,rfl,p.stream_valid,
      p.stream_valid.slice?_eq,p.stream_valid.length?_eq,?_,rfl,(length_remaining _).symm,
      first?_eq_head? _,splitFirst?_eq_none_iff,fun _ _ => exists_splitFirst?_iff,
      fun number' q hq => ?_⟩
    · rw [hleft]
      exact hh p hmem
    · rw [hleft]
      exact List.drop_left.symm
    · rw [Places.get_workspace hq,hleft]
      exact hh.isSuffixOf_iff hmem (List.mem_of_getElem? hq)
  · obtain ⟨p,hp,rfl⟩ := Places.mem_workspace.mp hs
    refine ⟨hh.isSuffixOf_refl hp,fun t ht hst => ?_⟩
    obtain ⟨q,hq,rfl⟩ := Places.mem_workspace.mp ht
    refine ⟨?_,fun hts => ?_,fun u hu htu => ?_⟩
    · obtain ⟨-,hleft⟩ := (hh.isSuffixOf_iff hp hq).mp hst
      rw [p.remaining_stream,q.remaining_stream,p.length_stream,q.length_stream]
      exact ⟨hleft,hleft.length_le⟩
    · have heq := hh.isSuffixOf_antisymm hp hq hst hts
      refine ⟨heq,?_⟩
      intro _ _
      rw [heq]
      exact BEq.rfl (a := q.stream.remaining)
    · obtain ⟨r,hr,rfl⟩ := Places.mem_workspace.mp hu
      exact hh.isSuffixOf_trans hp hq hr hst htu

/-- A stream of three tokens is read to its last one and begun again, and the last token stands in a
buffer of its own too. -/
theorem streams_follow_places_of_restart :
    let changes : List (Change Char) :=
      [.make ['a','b','c'],.split 0,.split 1,.restart 2,.make ['c'],.clone 2]
    let w : Workspace Char := changes.foldl .change {}
    (w.get 2).isSuffixOf (w.get 1) = true ∧ (w.get 1).isSuffixOf (w.get 3) = true ∧
      (w.get 2).isSuffixOf (w.get 3) = true ∧ (w.get 2).remaining <:+ (w.get 3).remaining ∧
      (w.get 2).slice? = some ['c'] ∧ (w.get 2).length? = some 1 ∧
      (w.get 5).isSuffixOf (w.get 2) = true ∧ w.get 5 = w.get 2 ∧
      (w.get 4).remaining = (w.get 2).remaining ∧ (w.get 4).isSuffixOf (w.get 2) = false := by
  intro changes w
  obtain ⟨-,hplaces,hlaws⟩ := streams_follow_places changes
  obtain ⟨h1,-⟩ := hplaces 1 ⟨0,['a'],['b','c']⟩ rfl
  obtain ⟨h2,-,-,-,hslice,hlength,-,hleft,hsize,-⟩ := hplaces 2 ⟨0,['a','b'],['c']⟩ rfl
  obtain ⟨h3,-⟩ := hplaces 3 ⟨0,[],['a','b','c']⟩ rfl
  obtain ⟨h5,-⟩ := hplaces 5 ⟨0,['a','b'],['c']⟩ rfl
  have h21 : (w.get 2).isSuffixOf (w.get 1) = true := rfl
  have h13 : (w.get 1).isSuffixOf (w.get 3) = true := rfl
  have h52 : (w.get 5).isSuffixOf (w.get 2) = true := rfl
  have h25 : (w.get 2).isSuffixOf (w.get 5) = true := rfl
  obtain ⟨-,-,htrans⟩ := (hlaws _ h2).2 _ h1 h21
  have h23 := htrans _ h3 h13
  obtain ⟨⟨hsuffix,-⟩,-⟩ := (hlaws _ h2).2 _ h3 h23
  obtain ⟨-,hsame,-⟩ := (hlaws _ h5).2 _ h2 h52
  exact ⟨h21,h13,h23,hsuffix,hslice.trans (congrArg some hleft),
    hlength.trans (congrArg some hsize),h52,(hsame h25).1,rfl,rfl⟩

end Backtrack.Stream
