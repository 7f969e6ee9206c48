import Backtrack.Braces.OpenBraces
import Mathlib.Tactic.Common

/-!
Versions of a stack of open braces. Each of them is reached from the empty stack by opening and
closing braces on versions that are already there. The depth that a version carries counts its
braces, so what reads the depth agrees with what reads the braces, and every version stays what it
is, whatever is opened or closed on it later.
-/
namespace Backtrack.Braces.OpenBraces

variable {braces other outer : OpenBraces} {brace : Located}

/-- The depth is the number of open braces. -/
def Counted (braces : OpenBraces) : Prop := braces.depth = braces.toList.length

lemma empty_counted : empty.Counted := rfl

lemma Counted.push (h : braces.Counted) (brace : Located) : (braces.push brace).Counted :=
  congrArg (· + 1) h

lemma peek?_eq_none_iff : braces.peek? = none ↔ braces.toList = [] := List.head?_eq_none_iff

lemma pop?_of_nil (h : braces.toList = []) : braces.pop? = none := by simp [pop?,h]

lemma pop?_of_cons {below : List Located} (h : braces.toList = brace :: below) :
    braces.pop? = some ⟨below,braces.depth - 1⟩ := by
  simp [pop?,h]

lemma pop?_eq_none_iff : braces.pop? = none ↔ braces.toList = [] := by
  cases h : braces.toList with
  | nil => simp [pop?_of_nil h]
  | cons brace below => simp [pop?_of_cons h]

@[simp] lemma pop?_push (braces : OpenBraces) (brace : Located) :
    (braces.push brace).pop? = some braces := rfl

/-- The brace that is closed was counted, so the depth can go down by one. -/
lemma Counted.of_pop? (h : braces.Counted) (hpop : braces.pop? = some outer) :
    outer.Counted ∧ ∃ brace, braces.peek? = some brace ∧
      braces.toList = brace :: outer.toList ∧ braces.depth = outer.depth + 1 := by
  cases hlist : braces.toList with
  | nil => simp [pop?_of_nil hlist] at hpop
  | cons brace below =>
    obtain rfl : ⟨below,braces.depth - 1⟩ = outer := by simpa [pop?_of_cons hlist] using hpop
    have hdepth : braces.depth = below.length + 1 := by rw [h,hlist,List.length_cons]
    refine ⟨?_,brace,by rw [peek?,hlist,List.head?_cons],rfl,?_⟩
    · show braces.depth - 1 = below.length
      omega
    · show braces.depth = braces.depth - 1 + 1
      omega

lemma Counted.isEmpty_iff (h : braces.Counted) : braces.isEmpty = true ↔ braces.toList = [] := by
  rw [isEmpty,beq_iff_eq,h,List.length_eq_zero_iff]

lemma Counted.beq_iff (h : braces.Counted) (hother : other.Counted) :
    (braces == other) = true ↔ braces.toList = other.toList := by
  show (braces.depth == other.depth && braces.toList == other.toList) = true ↔ _
  rw [Bool.and_eq_true,beq_iff_eq,beq_iff_eq,and_iff_right_iff_imp]
  intro hlist
  rw [h,hother,hlist]

/-- What is done to a history: a brace is opened on a version, or the innermost one is closed. -/
inductive Change
  | push (version : ℕ) (brace : Located)
  | pop (version : ℕ)

namespace History

variable {h : History} {lists : List (List Located)}

/-- The history after a change. Where no brace is open, none is closed, and no version is added. -/
def change (h : History) : Change → History
  | .push version brace => (h.push version brace).2
  | .pop version => ((h.pop? version).map Prod.snd).getD h

/-- The same change of a history of plain lists. -/
def changeLists (lists : List (List Located)) : Change → List (List Located)
  | .push version brace => lists ++ [brace :: lists.getD version []]
  | .pop version =>
    match lists.getD version [] with
    | [] => lists
    | _ :: outer => lists ++ [outer]

/-- All versions count their braces, and their braces are those of a history of plain lists. -/
structure Follows (h : History) (lists : List (List Located)) : Prop where
  toLists : h.versions.toList.map toList = lists
  counted : ∀ braces ∈ h.versions, braces.Counted

lemma Follows.new : ({} : History).Follows [[]] :=
  ⟨rfl,by simpa using empty_counted⟩

lemma Follows.get_counted (hf : h.Follows lists) (version : ℕ) : (h.get version).Counted := by
  cases hversion : h.versions[version]? with
  | none => simpa [get,hversion] using empty_counted
  | some braces => simpa [get,hversion] using hf.counted braces (Array.mem_of_getElem? hversion)

lemma Follows.get_toList (hf : h.Follows lists) (version : ℕ) :
    (h.get version).toList = lists.getD version [] := by
  rw [← hf.toLists,List.getD_eq_getElem?_getD,List.getElem?_map,Array.getElem?_toList,get]
  cases h.versions[version]? with
  | none => rfl
  | some braces => rfl

lemma Follows.keep (hf : h.Follows lists) (hb : braces.Counted) :
    (h.keep braces).2.Follows (lists ++ [braces.toList]) := by
  constructor
  · simp [History.keep,hf.toLists]
  · intro other hother
    rcases Array.mem_push.mp hother with hother | rfl
    · exact hf.counted other hother
    · exact hb

lemma Follows.change (hf : h.Follows lists) (c : Change) :
    (h.change c).Follows (changeLists lists c) := by
  cases c with
  | push version brace =>
    rw [changeLists,← hf.get_toList]
    exact hf.keep ((hf.get_counted version).push brace)
  | pop version =>
    rw [changeLists,← hf.get_toList]
    cases hpop : (h.get version).pop? with
    | none =>
      rw [pop?_eq_none_iff.mp hpop]
      simpa [History.change,pop?,hpop] using hf
    | some outer =>
      obtain ⟨houter,brace,-,hlist,-⟩ := (hf.get_counted version).of_pop? hpop
      rw [hlist]
      simpa [History.change,History.pop?,hpop] using hf.keep houter

lemma Follows.changes (hf : h.Follows lists) (changes : List Change) :
    (changes.foldl History.change h).Follows (changes.foldl changeLists lists) := by
  induction changes generalizing h lists with
  | nil => exact hf
  | cons c changes ih => exact ih (hf.change c)

lemma keep_extends (h : History) (braces : OpenBraces) :
    h.versions.toList <+: (h.keep braces).2.versions.toList := by
  simp [keep]

lemma change_extends (h : History) (c : Change) :
    h.versions.toList <+: (h.change c).versions.toList := by
  cases c with
  | push version brace => exact keep_extends _ _
  | pop version =>
    rw [change,pop?]
    cases (h.get version).pop? with
    | none => exact List.prefix_rfl
    | some outer => exact keep_extends _ _

lemma changes_extend (h : History) (changes : List Change) :
    h.versions.toList <+: (changes.foldl change h).versions.toList := by
  induction changes generalizing h with
  | nil => exact List.prefix_rfl
  | cons c changes ih => exact (change_extends h c).trans (ih _)

lemma get_changes (changes : List Change) {version : ℕ} (hversion : version < h.versions.size) :
    (changes.foldl change h).get version = h.get version := by
  obtain ⟨added,hadded⟩ := changes_extend h changes
  rw [get,get,← Array.getElem?_toList,← Array.getElem?_toList,← hadded,
    List.getElem?_append_left (by simpa using hversion)]

end History

/-- The versions of a history are those of a history of plain lists, and no change alters a version
that is already there. The depth of each version is the number of its braces, and it is empty where
no brace is to be seen or closed. To close a brace takes the innermost one, which was counted, and
to close the brace that was just opened gives the version back. Versions are equal exactly if their
braces are. -/
theorem versions_follow_lists (changes more : List Change) :
    let h : History := changes.foldl .change {}
    h.versions.toList.map toList = changes.foldl History.changeLists [[]] ∧
    (∀ version < h.versions.size, (more.foldl .change h).get version = h.get version) ∧
    ∀ version, let braces := h.get version
      braces.depth = braces.toList.length ∧
      (braces.isEmpty = true ↔ braces.toList = []) ∧
      (braces.peek? = none ↔ braces.toList = []) ∧
      (braces.pop? = none ↔ braces.toList = []) ∧
      (∀ outer, braces.pop? = some outer → ∃ brace, braces.peek? = some brace ∧
        braces.toList = brace :: outer.toList ∧ braces.depth = outer.depth + 1) ∧
      (∀ brace, (braces.push brace).pop? = some braces ∧
        (braces.push brace).peek? = some brace ∧
        (braces.push brace).toList = brace :: braces.toList) ∧
      ∀ other, (braces == h.get other) = true ↔ braces.toList = (h.get other).toList := by
  intro h
  have hf : h.Follows (changes.foldl History.changeLists [[]]) :=
    History.Follows.new.changes changes
  refine ⟨hf.toLists,fun version hversion => History.get_changes more hversion,fun version => ?_⟩
  have hcounted := hf.get_counted version
  exact ⟨hcounted,hcounted.isEmpty_iff,peek?_eq_none_iff,pop?_eq_none_iff,
    fun outer hpop => (hcounted.of_pop? hpop).2,fun brace => ⟨pop?_push _ brace,rfl,rfl⟩,
    fun other => hcounted.beq_iff (hf.get_counted other)⟩

/-- Two versions share the brace below them, and a brace is closed on one of them. -/
theorem versions_follow_lists_of_branches :
    let brace (column : ℕ) : Located := ⟨'\x7b',⟨1,column⟩⟩
    let changes : List Change :=
      [.push 0 (brace 1),.push 1 (brace 2),.push 1 (brace 3),.pop 2,.pop 0]
    let h : History := changes.foldl .change {}
    2 < h.versions.size ∧ (History.change h (.pop 2)).get 2 = h.get 2 ∧
      (h.get 2).pop? = some (h.get 4) ∧ (h.get 2).depth = (h.get 4).depth + 1 ∧
      h.versions.toList.map toList =
        [[],[brace 1],[brace 2,brace 1],[brace 3,brace 1],[brace 1]] := by
  intro brace changes h
  obtain ⟨hlists,hkept,hversions⟩ := versions_follow_lists changes [.pop 2]
  have hsize : 2 < h.versions.size := by decide
  have hpop : (h.get 2).pop? = some (h.get 4) := rfl
  obtain ⟨-,-,-,-,hclose,-⟩ := hversions 2
  obtain ⟨_,-,-,hdepth⟩ := hclose _ hpop
  exact ⟨hsize,hkept 2 hsize,hpop,hdepth,hlists⟩

end Backtrack.Braces.OpenBraces
