import Backtrack.Braces.Command.Options
import Mathlib.Data.List.Induction
import Mathlib.Tactic.Common

/-!
Arguments of a command. A list of arguments is read as flags and one path, in any order. Otherwise
the first argument out of place is reported: one that is unknown, or a second path. If none is out
of place, there is no path at all.
-/
namespace Backtrack.Braces.Command

/-- Both spellings ask to print nothing about a balanced source. -/
def IsFlag (argument : String) : Prop := argument = "-q" ∨ argument = "--quiet"

/-- Standard input, or an argument that does not begin with a dash, be it empty. -/
def IsPath (argument : String) : Prop := argument = "-" ∨ argument.toList.head? ≠ some '-'

def IsUnknown (argument : String) : Prop := ¬ IsFlag argument ∧ ¬ IsPath argument

instance : DecidablePred IsFlag := fun _ => inferInstanceAs (Decidable (_ ∨ _))

instance : DecidablePred IsPath := fun _ => inferInstanceAs (Decidable (_ ∨ _))

instance : DecidablePred IsUnknown := fun _ => inferInstanceAs (Decidable (_ ∧ _))

/-- The argument is out of place behind those before it, and what is said about it. -/
inductive Offends (before : List String) (argument : String) : UsageError → Prop
  | unknown (h : IsUnknown argument) : Offends before argument (.unknownOption argument)
  | second (h : IsPath argument) (first : ∃ path ∈ before, IsPath path) :
      Offends before argument (.unexpectedArgument argument)

/-- No argument is out of place. -/
def Clean (args : List String) : Prop :=
  ∀ before argument after, args = before ++ argument :: after →
    ∀ reason, ¬ Offends before argument reason

variable {argument path : String} {args before rest : List String} {quiet : Bool}

lemma IsPath.not_isFlag (h : IsPath argument) : ¬ IsFlag argument := by
  rintro (rfl | rfl)
  · exact absurd h (by decide)
  · exact absurd h (by decide)

/-! Single arguments. -/

lemma startsWith_dash_iff : argument.startsWith "-" = true ↔ argument.toList.head? = some '-' := by
  rw [String.startsWith_string_iff]
  cases argument.toList with
  | nil => simp
  | cons c cs => simp [eq_comm]

lemma ofString_eq (argument : String) : Argument.ofString argument =
    if IsFlag argument then .quiet else if IsPath argument then .path argument
    else .unknown argument := by
  have hflag : (argument == "--quiet" || argument == "-q") = decide (IsFlag argument) := by
    rw [Bool.eq_iff_iff]
    simp [IsFlag,or_comm]
  have hpath : (argument == "-" || !argument.startsWith "-") = decide (IsPath argument) := by
    rw [Bool.eq_iff_iff]
    simp [IsPath,← startsWith_dash_iff]
  simp only [Argument.ofString,hflag,hpath,decide_eq_true_eq]

lemma ofArgsFrom_flag (h : IsFlag argument) (path : Option String) (quiet : Bool) :
    Options.ofArgsFrom path quiet (argument :: rest) = Options.ofArgsFrom path true rest := by
  simp [Options.ofArgsFrom,ofString_eq,h]

lemma ofArgsFrom_path (h : IsPath argument) (quiet : Bool) :
    Options.ofArgsFrom none quiet (argument :: rest) =
      Options.ofArgsFrom (some argument) quiet rest := by
  simp [Options.ofArgsFrom,ofString_eq,h,h.not_isFlag]

lemma ofArgsFrom_second (h : IsPath argument) (path : String) (quiet : Bool) :
    Options.ofArgsFrom (some path) quiet (argument :: rest) =
      .error (.unexpectedArgument argument) := by
  simp [Options.ofArgsFrom,ofString_eq,h,h.not_isFlag]

lemma ofArgsFrom_unknown (h : IsUnknown argument) (path : Option String) (quiet : Bool) :
    Options.ofArgsFrom path quiet (argument :: rest) = .error (.unknownOption argument) := by
  simp [Options.ofArgsFrom,ofString_eq,h.1,h.2]

/-! Arguments in place. -/

lemma clean_nil : Clean [] := by
  intro before argument after h
  simp at h

lemma clean_concat : Clean (before ++ [argument]) ↔
    Clean before ∧ ∀ reason, ¬ Offends before argument reason := by
  constructor
  · intro h
    refine ⟨fun front a after hfront => ?_,h before argument [] rfl⟩
    exact h front a (after ++ [argument]) (by simp [hfront])
  · rintro ⟨hbefore,hargument⟩ front a after h
    cases after using List.reverseRecOn with
    | nil =>
      obtain ⟨rfl,ha⟩ := List.append_inj' h rfl
      obtain rfl := List.singleton_inj.mp ha
      exact hargument
    | append_singleton after last =>
      rw [← List.cons_append,← List.append_assoc] at h
      exact hbefore front a after (List.append_inj' h rfl).1

lemma not_offends_iff : (∀ reason, ¬ Offends before argument reason) ↔
    ¬ IsUnknown argument ∧ (IsPath argument → ∀ path ∈ before, ¬ IsPath path) := by
  constructor
  · intro h
    exact ⟨fun hunknown => h _ (.unknown hunknown),
      fun hpath path hmem hfirst => h _ (.second hpath ⟨path,hmem,hfirst⟩)⟩
  · rintro ⟨hunknown,hpath⟩ reason hoffends
    cases hoffends with
    | unknown h => exact hunknown h
    | second h first =>
      obtain ⟨path,hmem,hfirst⟩ := first
      exact hpath h path hmem hfirst

lemma clean_iff : Clean args ↔
    (∀ argument ∈ args, ¬ IsUnknown argument) ∧ (args.filter (IsPath ·)).length ≤ 1 := by
  induction args using List.reverseRecOn with
  | nil => simp [clean_nil]
  | append_singleton before argument ih =>
    rw [clean_concat,ih,not_offends_iff]
    simp only [List.forall_mem_append,List.forall_mem_singleton,List.filter_append,
      List.length_append]
    by_cases hpath : IsPath argument
    · have hone : (before.filter (IsPath ·)).length + 1 ≤ 1 ↔ ∀ path ∈ before, ¬ IsPath path := by
        simp [List.filter_eq_nil_iff]
      have hfew : (∀ path ∈ before, ¬ IsPath path) → (before.filter (IsPath ·)).length ≤ 1 :=
        fun hnone => Nat.le_of_succ_le (hone.mpr hnone)
      simp only [hpath,decide_true,List.filter_cons_of_pos,List.filter_nil,List.length_singleton,
        hone]
      tauto
    · simp only [hpath,decide_false,Bool.false_eq_true,not_false_iff,List.filter_cons_of_neg,
        List.filter_nil,List.length_nil,Nat.add_zero]
      tauto

/-- Arguments in place are read into the first path among them and the flag. -/
lemma ofArgsFrom_of_clean (h : Clean before) (rest : List String) :
    Options.ofArgsFrom none false (before ++ rest) =
      Options.ofArgsFrom (before.filter (IsPath ·)).head? (before.any (IsFlag ·)) rest := by
  induction before using List.reverseRecOn generalizing rest with
  | nil => rfl
  | append_singleton before argument ih =>
    obtain ⟨hbefore,hargument⟩ := clean_concat.mp h
    obtain ⟨hunknown,hsecond⟩ := not_offends_iff.mp hargument
    rw [List.append_assoc,List.singleton_append,ih hbefore]
    by_cases hflag : IsFlag argument
    · have hpath : ¬ IsPath argument := fun hpath => hpath.not_isFlag hflag
      rw [ofArgsFrom_flag hflag]
      simp [hflag,hpath]
    · have hpath : IsPath argument := by
        by_contra hpath
        exact hunknown ⟨hflag,hpath⟩
      have hnone : before.filter (IsPath ·) = [] := by
        simpa [List.filter_eq_nil_iff] using hsecond hpath
      simp [hnone,hflag,hpath,ofArgsFrom_path hpath]

/-! All arguments. -/

/-- What a list of arguments comes to. -/
inductive Reading (args : List String) : Except UsageError Options → Prop
  | accepted {path : String} (clean : Clean args) (one : args.filter (IsPath ·) = [path]) :
      Reading args (.ok ⟨path,args.any (IsFlag ·)⟩)
  | offended {before after : List String} {argument : String} {reason : UsageError}
      (split : args = before ++ argument :: after) (clean : Clean before)
      (offends : Offends before argument reason) : Reading args (.error reason)
  | pathless (clean : Clean args) (none : ∀ argument ∈ args, ¬ IsPath argument) :
      Reading args (.error .missingPath)

variable {result : Except UsageError Options}

lemma Reading.ofArgs_eq (h : Reading args result) : Options.ofArgs args = result := by
  rw [Options.ofArgs]
  cases h with
  | accepted clean one =>
    have hread := ofArgsFrom_of_clean clean []
    rw [List.append_nil,one] at hread
    exact hread
  | pathless clean none =>
    have hread := ofArgsFrom_of_clean clean []
    have hnone : args.filter (IsPath ·) = [] := by simpa [List.filter_eq_nil_iff] using none
    rw [List.append_nil,hnone] at hread
    exact hread
  | @offended before _ _ _ split clean offends =>
    rw [split,ofArgsFrom_of_clean clean]
    cases offends with
    | unknown h => exact ofArgsFrom_unknown h _ _
    | second h first =>
      obtain ⟨path,hmem,hfirst⟩ := first
      cases hpaths : before.filter (IsPath ·) with
      | nil =>
        rw [List.filter_eq_nil_iff] at hpaths
        exact absurd (decide_eq_true hfirst) (hpaths path hmem)
      | cons first later => exact ofArgsFrom_second h _ _

lemma clean_or_offended (args : List String) : Clean args ∨
    ∃ before argument after reason, args = before ++ argument :: after ∧ Clean before ∧
      Offends before argument reason := by
  induction args using List.reverseRecOn with
  | nil => exact .inl clean_nil
  | append_singleton before last ih =>
    rcases ih with hclean | ⟨front,argument,after,reason,rfl,hclean,hoffends⟩
    · by_cases hlast : ∃ reason, Offends before last reason
      · obtain ⟨reason,hoffends⟩ := hlast
        exact .inr ⟨before,last,[],reason,rfl,hclean,hoffends⟩
      · exact .inl (clean_concat.mpr ⟨hclean,fun reason hoffends => hlast ⟨reason,hoffends⟩⟩)
    · exact .inr ⟨front,argument,after ++ [last],reason,by simp,hclean,hoffends⟩

lemma exists_reading (args : List String) : ∃ result, Reading args result := by
  rcases clean_or_offended args with hclean | ⟨_,_,_,_,hsplit,hclean,hoffends⟩
  · cases hpaths : args.filter (IsPath ·) with
    | nil =>
      rw [List.filter_eq_nil_iff] at hpaths
      exact ⟨_,.pathless hclean (by simpa using hpaths)⟩
    | cons path later =>
      obtain ⟨-,hlength⟩ := clean_iff.mp hclean
      obtain rfl : later = [] := by simpa [hpaths] using hlength
      exact ⟨_,.accepted hclean hpaths⟩
  · exact ⟨_,.offended hsplit hclean hoffends⟩

theorem ofArgs_eq_iff : Options.ofArgs args = result ↔ Reading args result := by
  constructor
  · rintro rfl
    obtain ⟨result,h⟩ := exists_reading args
    rwa [h.ofArgs_eq]
  · exact Reading.ofArgs_eq

/-- Arguments are accepted exactly if none is unknown and exactly one is a path. -/
theorem ofArgs_eq_ok_iff {options : Options} : Options.ofArgs args = .ok options ↔
    (∀ argument ∈ args, ¬ IsUnknown argument) ∧ args.filter (IsPath ·) = [options.path] ∧
      (options.quiet = true ↔ ∃ argument ∈ args, IsFlag argument) := by
  have hflag : args.any (IsFlag ·) = true ↔ ∃ argument ∈ args, IsFlag argument := by simp
  rw [ofArgs_eq_iff]
  constructor
  · intro h
    cases h with
    | accepted clean one => exact ⟨(clean_iff.mp clean).1,one,hflag⟩
  · rintro ⟨hknown,hone,hquiet⟩
    have hclean : Clean args := clean_iff.mpr ⟨hknown,by simp [hone]⟩
    have hoptions : options = ⟨options.path,args.any (IsFlag ·)⟩ := by
      rw [← hflag,← Bool.eq_iff_iff] at hquiet
      rw [← hquiet]
    rw [hoptions]
    exact .accepted hclean hone

/-- Arguments are accepted exactly if none of them is unknown and exactly one is a path, which is
the path to read; they ask for quiet if a flag is among them, so their order does not matter.
Otherwise the first argument out of place is reported, an unknown one or a second path, and if there
is none, that no path is there. -/
theorem ofArgs_reads (args : List String) :
    (∀ options, Options.ofArgs args = .ok options ↔
      (∀ argument ∈ args, ¬ IsUnknown argument) ∧ args.filter (IsPath ·) = [options.path] ∧
        (options.quiet = true ↔ ∃ argument ∈ args, IsFlag argument)) ∧
    (∀ other options, other.Perm args →
      (Options.ofArgs other = .ok options ↔ Options.ofArgs args = .ok options)) ∧
    (∀ reason, Options.ofArgs args = .error reason ↔
      (∃ before argument after, args = before ++ argument :: after ∧ Clean before ∧
        Offends before argument reason) ∨
      Clean args ∧ (∀ argument ∈ args, ¬ IsPath argument) ∧ reason = .missingPath) ∧
    (∀ argument, (UsageError.unknownOption argument).message =
        "unknown option `" ++ argument ++ "`" ∧
      (UsageError.unexpectedArgument argument).message =
        "unexpected argument `" ++ argument ++ "`") ∧
    UsageError.missingPath.message = "missing file path" := by
  refine ⟨fun options => ofArgs_eq_ok_iff,fun other options hperm => ?_,fun reason => ?_,
    fun argument => ⟨rfl,rfl⟩,rfl⟩
  · rw [ofArgs_eq_ok_iff,ofArgs_eq_ok_iff]
    have hpaths := hperm.filter (IsPath ·)
    simp only [hperm.mem_iff,← List.perm_singleton,hpaths.congr_left]
  · rw [ofArgs_eq_iff]
    constructor
    · intro h
      cases h with
      | offended split clean offends => exact .inl ⟨_,_,_,split,clean,offends⟩
      | pathless clean none => exact .inr ⟨clean,none,rfl⟩
    · rintro (⟨_,_,_,hsplit,hclean,hoffends⟩ | ⟨hclean,hnone,rfl⟩)
      · exact .offended hsplit hclean hoffends
      · exact .pathless hclean hnone

/-- A flag may come before or after the path; a second path is reported before a later option. -/
theorem ofArgs_reads_of_flag_and_paths :
    ["-","-q"].Perm ["-q","-"] ∧ Options.ofArgs ["-q","-"] = .ok ⟨"-",true⟩ ∧
    Options.ofArgs ["-","-q"] = .ok ⟨"-",true⟩ ∧
    Options.ofArgs ["f","--quiet","","-x"] = .error (.unexpectedArgument "") := by
  have hperm : ["-","-q"].Perm ["-q","-"] := .swap "-q" "-" []
  obtain ⟨haccepts,horder,-⟩ := ofArgs_reads ["-q","-"]
  have hread : Options.ofArgs ["-q","-"] = .ok ⟨"-",true⟩ :=
    (haccepts _).mpr ⟨by decide,by decide,by decide⟩
  obtain ⟨-,-,hrefuses,-⟩ := ofArgs_reads ["f","--quiet","","-x"]
  refine ⟨hperm,hread,(horder _ _ hperm).mpr hread,(hrefuses _).mpr (.inl ?_)⟩
  exact ⟨["f","--quiet"],"",["-x"],rfl,clean_iff.mpr ⟨by decide,by decide⟩,
    .second (by decide) ⟨"f",by decide,by decide⟩⟩

end Backtrack.Braces.Command
