import Backtrack.Braces.Command
import Backtrack.Proofs.Braces.Arguments
import Backtrack.Proofs.Braces.Findings

/-!
The exit status of the program. It tells an unbalanced source from arguments and sources that
cannot be used, whatever the arguments are and whatever reading a source gives.
-/
namespace Backtrack.Braces

/-- The check of a source accepts it if the scan closes all that it opens, and else rejects it. -/
lemma check_of_tokenize {source : String} {ts : List Located} (hts : tokenize source = .ok ts) :
    ∃ checked, check source = .ok checked ∧
      ((scan [] ts = .finished [] ∧ ∃ forms, checked.result = .ok forms) ∨
        scan [] ts ≠ .finished [] ∧ ∃ mismatch, checked.result = .error mismatch) := by
  obtain ⟨checked,_,_,hcheck,hfinds,-⟩ := check_finds hts
  refine ⟨checked,hcheck,?_⟩
  generalize checked.result = result at hfinds
  cases hfinds with
  | balanced hf h => exact .inl ⟨Finds.scan_of_ok (.balanced hf h),_,rfl⟩
  | unopened h => exact .inr ⟨by simp [h],_,rfl⟩
  | unclosed h => exact .inr ⟨by simp [h],_,rfl⟩

namespace Command

/-! One source. -/
section
variable {options : Options} {source : String} {ts : List Located}

/-- The bytes of a text are read as the text. -/
lemma decode_toUTF8 (text : String) : decode (.ok text.toUTF8) = .ok text := by
  have h : text.toUTF8.IsValidUTF8 := text.isValidUTF8
  simp only [decode,String.fromUTF8?,dif_pos h]
  rfl

lemma runCheck_of_finished (options : Options) (hts : tokenize source = .ok ts)
    (hscan : scan [] ts = .finished []) :
    ∃ summary, runCheck options source = .ofSummary options summary := by
  obtain ⟨checked,hcheck,⟨-,forms,hforms⟩ | ⟨hne,-⟩⟩ := check_of_tokenize hts
  · exact ⟨.of forms,by simp [runCheck,checkSource,hcheck,hforms]⟩
  · exact absurd hscan hne

lemma runCheck_of_not_finished (options : Options) (hts : tokenize source = .ok ts)
    (hscan : scan [] ts ≠ .finished []) :
    ∃ mismatch, runCheck options source = .ofError (.unbalanced options.path mismatch) := by
  obtain ⟨checked,hcheck,⟨h,-⟩ | ⟨-,mismatch,hmismatch⟩⟩ := check_of_tokenize hts
  · exact absurd h hscan
  · exact ⟨mismatch,by simp [runCheck,checkSource,hcheck,hmismatch]⟩

lemma runCheck_of_overflow {reason : Fault} (hts : tokenize source = .error reason) :
    runCheck options source = .ofFault reason := by
  simp [runCheck,checkSource,check,hts]

lemma runTokens_of_overflow {reason : Fault} (hts : tokenize source = .error reason) :
    runTokens options source = .ofFault reason := by
  simp [runTokens,listTokens,hts,Except.map]

lemma runTokens_of_tokenize (hts : tokenize source = .ok ts) :
    (runTokens options source).exit = 0 := by
  simp [runTokens,listTokens,hts,Except.map]

end
/-! The whole command line, where reading is any function of the path. -/
section
variable (read : String → Except ReadError ByteArray) (args : List String)

/-- The commands that read a source. -/
def readers : List String := ["check","tokens"]

/-- All commands. -/
def known : List String :=
  readers ++ ["help","--help","-h"] ++ ["version","--version","-V"]

/-- The arguments are in order, and they name a source with this text. -/
def Reads (rest : List String) (options : Options) (text : String) : Prop :=
  Options.ofArgs rest = .ok options ∧ decode (read options.path) = .ok text

/-- The source to be checked has a brace without a partner. -/
def Unbalanced : Prop :=
  ∃ rest options text ts, args = "check" :: rest ∧ Reads read rest options text ∧
    tokenize text = .ok ts ∧ scan [] ts ≠ .finished []

/-- There is no such command, its arguments are out of order, or their source cannot be read. -/
def Refused : Prop :=
  ∃ command rest, args = command :: rest ∧ (command ∉ known ∨ command ∈ readers ∧
    ((∃ reason, Options.ofArgs rest = .error reason) ∨
      ∃ options reason, Options.ofArgs rest = .ok options ∧
        decode (read options.path) = .error reason))

/-- The places of the source go beyond what can be counted. -/
def Overflows : Prop :=
  ∃ command rest options text reason, args = command :: rest ∧ command ∈ readers ∧
    Reads read rest options text ∧ tokenize text = .error reason

end

variable {read : String → Except ReadError ByteArray} {args rest : List String} {command : String}
  {options : Options} {text : String}

/-- What a job leaves behind, given what reading its source gave. -/
def answer (job : Options → String → Output) (options : Options)
    (content : Except ReadError ByteArray) : Output :=
  match (source options content).1 with
  | .error error => .ofError error
  | .ok text => job options text

section
variable {m : Type → Type} [Monad m] (readM : String → m (Except ReadError ByteArray))

/-- A reader does its job on its source. -/
lemma run_reader (h : command ∈ readers) : run readM (command :: rest) =
    withSource readM rest (if command = "check" then runCheck else runTokens) := by
  simp only [readers,List.mem_cons,List.not_mem_nil,or_false] at h
  rcases h with rfl | rfl
  · rfl
  · rfl

lemma withSource_eq [LawfulMonad m] (rest : List String) (job : Options → String → Output) :
    withSource readM rest job =
      match Options.ofArgs rest with
      | .error reason => pure (.ofError (.usage reason))
      | .ok options => answer job options <$> readM options.path := by
  rw [withSource]
  cases Options.ofArgs rest with
  | error reason => rfl
  | ok options =>
    simp only [map_eq_pure_bind]
    congr 1
    funext content
    rw [answer]
    cases (source options content).1 <;> rfl

end

lemma withSource_rejected {job : Options → String → Output} {reason : UsageError}
    (h : Options.ofArgs rest = .error reason) :
    withSource (m := Id) read rest job = .ofError (.usage reason) := by
  rw [withSource_eq,h]
  rfl

lemma withSource_unreadable {job : Options → String → Output} {reason : ReadError}
    (h : Options.ofArgs rest = .ok options) (hread : decode (read options.path) = .error reason) :
    withSource (m := Id) read rest job = .ofError (.unreadable options.path reason) := by
  rw [withSource_eq,h]
  show answer job options (read options.path) = _
  simp only [answer,source,hread]

lemma withSource_reads {job : Options → String → Output} (h : Reads read rest options text) :
    withSource (m := Id) read rest job = job options text := by
  rw [withSource_eq,h.1]
  show answer job options (read options.path) = _
  simp only [answer,source,h.2]

lemma run_unknown (h : command ∉ known) :
    run (m := Id) read (command :: rest) = .ofError (.usage (.unknownCommand command)) := by
  simp only [known,readers,List.cons_append,List.nil_append,List.mem_cons,List.not_mem_nil,or_false,
    not_or] at h
  simp [run,h]
  rfl

/-- A source with a mismatch gives its error. -/
lemma run_of_unbalanced (h : Unbalanced read args) :
    ∃ path mismatch, run (m := Id) read args = .ofError (.unbalanced path mismatch) := by
  obtain ⟨rest,options,text,ts,rfl,hreads,hts,hscan⟩ := h
  obtain ⟨mismatch,hcheck⟩ := runCheck_of_not_finished options hts hscan
  exact ⟨options.path,mismatch,(withSource_reads hreads).trans hcheck⟩

/-- What is refused gives an error that is not about braces. -/
lemma run_of_refused (h : Refused read args) :
    ∃ error, run (m := Id) read args = .ofError error ∧ error.exitCode = 2 := by
  obtain ⟨command,rest,rfl,hunknown | ⟨hreader,⟨reason,h⟩ | ⟨options,reason,h,hread⟩⟩⟩ := h
  · exact ⟨_,run_unknown hunknown,rfl⟩
  · exact ⟨_,(run_reader _ hreader).trans (withSource_rejected h),rfl⟩
  · exact ⟨_,(run_reader _ hreader).trans (withSource_unreadable h hread),rfl⟩

lemma run_of_overflows (h : Overflows read args) :
    ∃ reason, run (m := Id) read args = .ofFault reason := by
  obtain ⟨command,rest,options,text,reason,rfl,hreader,hreads,hts⟩ := h
  refine ⟨reason,(run_reader _ hreader).trans ((withSource_reads hreads).trans ?_)⟩
  split
  · exact runCheck_of_overflow hts
  · exact runTokens_of_overflow hts

/-- A reader whose source is in order does its job. -/
lemma exit_of_reads (hreader : command ∈ readers) (hreads : Reads read rest options text)
    {ts : List Located} (hts : tokenize text = .ok ts)
    (hscan : command = "check" → scan [] ts = .finished []) :
    (run (m := Id) read (command :: rest)).exit = 0 := by
  rw [run_reader _ hreader,withSource_reads hreads]
  by_cases hcheck : command = "check"
  · obtain ⟨summary,hrun⟩ := runCheck_of_finished options hts (hscan hcheck)
    simp only [hcheck,if_true,hrun]
    rfl
  · simp only [hcheck,if_false]
    exact runTokens_of_tokenize hts

/-- Help and the version ask for nothing. -/
lemma exit_of_not_reader (hknown : command ∈ known) (hreader : command ∉ readers) :
    (run (m := Id) read (command :: rest)).exit = 0 := by
  simp only [known,List.mem_append,hreader,false_or,List.mem_cons,List.not_mem_nil,or_false]
    at hknown
  rcases hknown with (rfl | rfl | rfl) | rfl | rfl | rfl <;> rfl

/-- Everything else is in order. -/
lemma exit_of_others (hbalanced : ¬ Unbalanced read args) (haccepted : ¬ Refused read args)
    (hfits : ¬ Overflows read args) : (run (m := Id) read args).exit = 0 := by
  -- stage by stage: what goes wrong in a stage is one of the three conditions
  cases args with
  | nil => rfl
  | cons command rest =>
    have hknown : command ∈ known := by
      by_contra h
      exact haccepted ⟨command,rest,rfl,.inl h⟩
    by_cases hreader : command ∈ readers
    · cases hargs : Options.ofArgs rest with
      | error reason => exact absurd ⟨command,rest,rfl,.inr ⟨hreader,.inl ⟨reason,hargs⟩⟩⟩ haccepted
      | ok options =>
        cases hread : decode (read options.path) with
        | error reason =>
          exact absurd ⟨command,rest,rfl,.inr ⟨hreader,.inr ⟨options,reason,hargs,hread⟩⟩⟩ haccepted
        | ok text =>
          have hreads : Reads read rest options text := ⟨hargs,hread⟩
          cases hts : tokenize text with
          | error reason =>
            exact absurd ⟨command,rest,options,text,reason,rfl,hreader,hreads,hts⟩ hfits
          | ok ts =>
            refine exit_of_reads hreader hreads hts ?_
            rintro rfl
            by_contra hscan
            exact hbalanced ⟨rest,options,text,ts,rfl,hreads,hts,hscan⟩
    · exact exit_of_not_reader hknown hreader

lemma runCheck_quiet (hquiet : options.quiet = true) (source : String) :
    (runCheck options source).stdout = "" := by
  rw [runCheck]
  split
  · rfl
  · rfl
  · simp [Output.ofSummary,hquiet]

lemma run_check_quiet (hflag : ∃ argument ∈ rest, argument = "-q" ∨ argument = "--quiet") :
    (run (m := Id) read ("check" :: rest)).stdout = "" := by
  show (withSource (m := Id) read rest runCheck).stdout = ""
  cases hargs : Options.ofArgs rest with
  | error reason =>
    rw [withSource_rejected hargs]
    rfl
  | ok options =>
    obtain ⟨-,-,hquiet⟩ := ofArgs_eq_ok_iff.mp hargs
    have hquiet : options.quiet = true := hquiet.mpr hflag
    cases hread : decode (read options.path) with
    | error reason =>
      rw [withSource_unreadable hargs hread]
      rfl
    | ok text =>
      rw [withSource_reads ⟨hargs,hread⟩]
      exact runCheck_quiet hquiet text

/-- The path of the source that a command line reads, if it reads one. -/
def path? : List String → Option String
  | [] => none
  | command :: rest =>
    if command ∈ readers then (Options.ofArgs rest).toOption.map Options.path else none

/-- Whatever else reading a source does, what a run leaves behind depends on the content alone, and
only the path that the arguments name is read, and once. -/
theorem run_eq_map {m : Type → Type} [Monad m] [LawfulMonad m]
    (readM : String → m (Except ReadError ByteArray)) (args : List String) : run readM args =
      match path? args with
      | none => pure (run (m := Id) read args)
      | some path => (fun content => run (m := Id) (fun _ => content) args) <$> readM path := by
  cases args with
  | nil => rfl
  | cons command rest =>
    by_cases hreader : command ∈ readers
    · simp only [run_reader _ hreader,withSource_eq,path?,hreader,if_true]
      cases Options.ofArgs rest <;> rfl
    · simp only [path?,hreader,if_false]
      simp only [readers,List.mem_cons,List.not_mem_nil,or_false,not_or] at hreader
      simp only [run,hreader.1,hreader.2,beq_iff_eq,if_false]
      split
      · rfl
      · split
        · rfl
        · rfl

/-- The exit status is 1 exactly for an unbalanced source, 2 exactly for a command line or a source
that is refused, 101 exactly for a source too long for its places, and else 0. Nothing is written to
standard output unless it is 0, and nothing at all by a quiet check. -/
theorem exit_status_exact (read : String → Except ReadError ByteArray) (args : List String) :
    ((run (m := Id) read args).exit = 1 ↔ Unbalanced read args) ∧
    ((run (m := Id) read args).exit = 2 ↔ Refused read args) ∧
    ((run (m := Id) read args).exit = 101 ↔ Overflows read args) ∧
    ((run (m := Id) read args).exit = 0 ↔
      ¬ Unbalanced read args ∧ ¬ Refused read args ∧ ¬ Overflows read args) ∧
    ((run (m := Id) read args).exit ≠ 0 → (run (m := Id) read args).stdout = "") ∧
    ∀ rest, args = "check" :: rest → (∃ argument ∈ rest, argument = "-q" ∨ argument = "--quiet") →
      (run (m := Id) read args).stdout = "" := by
  have hunbalanced : Unbalanced read args →
      (run (m := Id) read args).exit = 1 ∧ (run (m := Id) read args).stdout = "" := by
    intro h
    obtain ⟨path,mismatch,hrun⟩ := run_of_unbalanced h
    exact ⟨by rw [hrun]; rfl,by rw [hrun]; rfl⟩
  have hrefused : Refused read args →
      (run (m := Id) read args).exit = 2 ∧ (run (m := Id) read args).stdout = "" := by
    intro h
    obtain ⟨error,hrun,hcode⟩ := run_of_refused h
    exact ⟨by rw [hrun]; exact hcode,by rw [hrun]; rfl⟩
  have hoverflows : Overflows read args →
      (run (m := Id) read args).exit = 101 ∧ (run (m := Id) read args).stdout = "" := by
    intro h
    obtain ⟨reason,hrun⟩ := run_of_overflows h
    exact ⟨by rw [hrun]; rfl,by rw [hrun]; rfl⟩
  have hothers : ¬ Unbalanced read args → ¬ Refused read args → ¬ Overflows read args →
      (run (m := Id) read args).exit = 0 := exit_of_others
  have hquiet : ∀ rest, args = "check" :: rest →
      (∃ argument ∈ rest, argument = "-q" ∨ argument = "--quiet") →
        (run (m := Id) read args).stdout = "" := by
    rintro rest rfl hflag
    exact run_check_quiet hflag
  generalize run (m := Id) read args = output at *
  -- each condition gives its own status, so no two of them hold together
  by_cases hu : Unbalanced read args
  · obtain ⟨hexit,hout⟩ := hunbalanced hu
    have hr : ¬ Refused read args := fun h => by simp [(hrefused h).1] at hexit
    have ho : ¬ Overflows read args := fun h => by simp [(hoverflows h).1] at hexit
    simp [hu,hr,ho,hexit,hout]
  · by_cases hr : Refused read args
    · obtain ⟨hexit,hout⟩ := hrefused hr
      have ho : ¬ Overflows read args := fun h => by simp [(hoverflows h).1] at hexit
      simp [hu,hr,ho,hexit,hout]
    · by_cases ho : Overflows read args
      · obtain ⟨hexit,hout⟩ := hoverflows ho
        simp [hu,hr,ho,hexit,hout]
      · have hexit := hothers hu hr ho
        refine ⟨by simp [hu,hexit],by simp [hr,hexit],by simp [ho,hexit],by simp [hu,hr,ho,hexit],
          fun h => absurd hexit h,hquiet⟩

/-- A closing brace without a partner on standard input, checked with a flag after the path. -/
theorem exit_status_exact_of_unmatched :
    let output := run (m := Id) (fun _ => .ok "a\x7d".toUTF8) ["check","-","-q"]
    output.exit = 1 ∧ output.stdout = "" := by
  obtain ⟨hunbalanced,-,-,-,hout,hquiet⟩ :=
    exit_status_exact (fun _ => .ok "a\x7d".toUTF8) ["check","-","-q"]
  have hargs : Options.ofArgs ["-","-q"] = .ok ⟨"-",true⟩ := by decide
  have hts : tokenize "a\x7d" = .ok [⟨'a',⟨1,1⟩⟩,⟨'\x7d',⟨1,2⟩⟩] := by decide
  have hexit := hunbalanced.mpr
    ⟨_,_,_,_,rfl,⟨hargs,decode_toUTF8 _⟩,hts,by decide⟩
  exact ⟨hexit,hquiet _ rfl ⟨"-q",by simp,.inl rfl⟩⟩

end Command
end Backtrack.Braces
