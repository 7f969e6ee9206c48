import Backtrack.Proofs.Braces.Findings
import Backtrack.Proofs.Braces.Tokens
import Backtrack.Proofs.Braces.Visit
import Mathlib.Order.Bounds.Basic
import Mathlib.Algebra.Order.Group.Nat
import Mathlib.Tactic.Linarith

/-!
Counts over forms and counts over the text that they stand for. The summary of the forms of a
balanced source says how many of its characters are no braces and how many are opening ones, and how
many braces are open at most on the way over it.
-/
namespace Backtrack.Braces

/-! Texts, where braces raise and lower the number of braces that are open. -/

/-- The characters that are no braces. -/
def others (cs : List Char) : ℕ := cs.countP fun c => c ≠ '\x7b' ∧ c ≠ '\x7d'

lemma others_cons (c : Char) (cs : List Char) :
    others (c :: cs) = others cs + if c ≠ '\x7b' ∧ c ≠ '\x7d' then 1 else 0 := by
  simp [others,List.countP_cons]

lemma others_add_counts (cs : List Char) :
    others cs + cs.count '\x7b' + cs.count '\x7d' = cs.length := by
  induction cs with
  | nil => rfl
  | cons c cs ih =>
    rw [others_cons,List.count_cons,List.count_cons,List.length_cons]
    by_cases ho : c = '\x7b'
    · simp [ho]
      omega
    · by_cases hc : c = '\x7d'
      · simp [hc]
        omega
      · simp [ho,hc]
        omega

/-- How many more braces `cs` opens than it closes. -/
def rise (cs : List Char) : ℤ := cs.count '\x7b' - cs.count '\x7d'

/-- On the way over `cs`, where `depth` braces are open at first, at most `top` are open. -/
def Peak (depth : ℤ) (cs : List Char) (top : ℤ) : Prop :=
  IsGreatest {open' | ∃ front, front <+: cs ∧ open' = depth + rise front} top

section
variable {depth top top' : ℤ} {front back cs : List Char}

@[simp] theorem rise_nil : rise [] = 0 := by simp [rise]

lemma rise_append (front back : List Char) : rise (front ++ back) = rise front + rise back := by
  simp only [rise,List.count_append]
  omega

lemma rise_cons (c : Char) (cs : List Char) : rise (c :: cs) = rise [c] + rise cs :=
  rise_append [c] cs

lemma peak_nil (depth : ℤ) : Peak depth [] depth := by
  refine ⟨⟨[],List.prefix_rfl,by simp⟩,?_⟩
  rintro _ ⟨front,hfront,rfl⟩
  simp [List.prefix_nil.mp hfront]

/-- The way over two texts is the way over the first, and then over the second from where the first
has come to. -/
lemma Peak.append (h : Peak depth front top) (h' : Peak (depth + rise front) back top') :
    Peak depth (front ++ back) (max top top') := by
  constructor
  · obtain ⟨a,ha,hatop⟩ := h.1
    obtain ⟨b,hb,hbtop⟩ := h'.1
    rcases max_choice top top' with hmax | hmax
    · exact ⟨a,ha.trans (List.prefix_append ..),by rw [hmax,hatop]⟩
    · refine ⟨front ++ b,(List.prefix_append_right_inj front).mpr hb,?_⟩
      rw [hmax,hbtop,rise_append]
      omega
  · rintro _ ⟨a,ha,rfl⟩
    rcases List.prefix_or_prefix_of_prefix ha (List.prefix_append front back) with hle | ⟨b,rfl⟩
    · exact le_max_of_le_left (h.2 ⟨a,hle,rfl⟩)
    · have hb := (List.prefix_append_right_inj front).mp ha
      apply le_max_of_le_right
      apply h'.2
      refine ⟨b,hb,?_⟩
      rw [rise_append]
      omega

/-- One character more at the beginning. -/
lemma Peak.cons {c : Char} (h : Peak (depth + rise [c]) cs top) :
    Peak depth (c :: cs) (max depth top) := by
  constructor
  · rcases max_choice depth top with hmax | hmax
    · exact ⟨[],List.nil_prefix,by simp [hmax]⟩
    · obtain ⟨a,ha,hatop⟩ := h.1
      refine ⟨c :: a,List.cons_prefix_cons.mpr ⟨rfl,ha⟩,?_⟩
      rw [hmax,hatop,rise_cons c a]
      omega
  · rintro _ ⟨a,ha,rfl⟩
    cases a with
    | nil => simp
    | cons d a =>
      obtain ⟨rfl,ha'⟩ := List.cons_prefix_cons.mp ha
      apply le_max_of_le_right
      apply h.2
      refine ⟨a,ha',?_⟩
      rw [rise_cons d a]
      omega

lemma rise_of_opens {t : Located} (h : t.Opens) : rise [t.char] = 1 := by
  rw [h]
  rfl

lemma rise_of_closes {t : Located} (h : t.Closes) : rise [t.char] = -1 := by
  rw [h]
  rfl

lemma rise_of_plain {t : Located} (ho : ¬ t.Opens) (hc : ¬ t.Closes) : rise [t.char] = 0 := by
  simp [rise,ho,hc]

end

/-! The text of well-formed forms. -/
namespace Form

variable {forms : List Form}

/-- The characters that forms stand for. -/
def characters (forms : List Form) : List Char := (tokens forms).map Located.char

@[simp] theorem characters_nil : characters [] = [] := by simp [characters]

@[simp] theorem characters_char (t : Located) (forms : List Form) :
    characters (.char t :: forms) = t.char :: characters forms := by
  simp [characters]

@[simp] theorem characters_block (opening closing : Located) (inner forms : List Form) :
    characters (.block opening inner closing :: forms) =
      opening.char :: (characters inner ++ closing.char :: characters forms) := by
  simp [characters]

namespace WellFormed

/-- Well-formed forms close what they open. -/
lemma rise_characters (h : WellFormed forms) : rise (characters forms) = 0 := by
  induction h with
  | nil => simp
  | char ho hc _ ih =>
    rw [characters_char,rise_cons,rise_of_plain ho hc,ih]
    rfl
  | @block opening closing inner forms ho hc _ _ ihInner ih =>
    rw [characters_block,rise_cons,rise_append,rise_cons closing.char,rise_of_opens ho,
      rise_of_closes hc,ihInner,ih]
    rfl

lemma summary_chars (h : WellFormed forms) :
    (Summary.of forms).chars = others (characters forms) := by
  induction h with
  | nil => simp [Summary.of,others]
  | char ho hc _ ih =>
    rw [Summary.of_cons,Summary.of_char]
    simp only [Located.Opens,Located.Closes] at ho hc
    simp [Summary.join,ih,others,ho,hc,Nat.add_comm]
  | block ho hc _ _ ihInner ih =>
    rw [Summary.of_cons,Summary.of_block]
    simp only [Located.Opens,Located.Closes] at ho hc
    simp [Summary.join,ihInner,ih,others,ho,hc]

lemma summary_blocks (h : WellFormed forms) :
    (Summary.of forms).blocks = (characters forms).count '\x7b' := by
  induction h with
  | nil => simp [Summary.of]
  | char ho _ _ ih =>
    rw [Summary.of_cons,Summary.of_char]
    simp only [Located.Opens] at ho
    simp [Summary.join,ih,ho]
  | block ho hc _ _ ihInner ih =>
    rw [Summary.of_cons,Summary.of_block]
    simp only [Located.Opens,Located.Closes] at ho hc
    simp [Summary.join,ihInner,ih,ho,hc]
    omega

lemma count_closing (h : WellFormed forms) :
    (characters forms).count '\x7b' = (characters forms).count '\x7d' := by
  have hrise := h.rise_characters
  rw [rise] at hrise
  omega

/-- The deepest block stands where the most braces are open. -/
lemma peak_maxDepth (h : WellFormed forms) (depth : ℤ) :
    Peak depth (characters forms) (depth + (Summary.of forms).maxDepth) := by
  induction h generalizing depth with
  | nil => simpa [Summary.of] using peak_nil depth
  | @char t forms ho hc _ ih =>
    have hrest := ih (depth + rise [t.char])
    rw [Summary.of_cons,Summary.of_char,characters_char]
    convert hrest.cons using 1
    rw [rise_of_plain ho hc]
    simp only [Summary.join]
    omega
  | @block opening closing inner forms ho hc hinner _ ihInner ih =>
    -- the opening brace raises to the inside, and the closing one lowers back to the forms after it
    have hinside := ihInner (depth + rise [opening.char])
    have hrest := ih (depth + rise [opening.char] + rise (characters inner) + rise [closing.char])
    rw [Summary.of_cons,Summary.of_block,characters_block]
    convert (hinside.append hrest.cons).cons using 1
    rw [hinner.rise_characters,rise_of_opens ho,rise_of_closes hc]
    simp only [Summary.join]
    omega

lemma visit_maxDepth (h : WellFormed forms) (s : Summary) (depth : ℕ) (hs : depth ≤ s.maxDepth) :
    ∃ top : ℕ, Peak depth (characters forms) top ∧
      (s.visit forms depth).maxDepth = max s.maxDepth top := by
  refine ⟨depth + (Summary.of forms).maxDepth,by simpa using h.peak_maxDepth depth,?_⟩
  rw [Summary.visit_eq_join]
  simp only [Summary.join,Summary.lower]
  split <;> omega

end WellFormed
end Form

variable {source : String} {checked : Checked} {forms : List Form}

/-- The forms of a balanced source stand for the source. -/
lemma characters_of_check (hcheck : check source = .ok checked) (h : checked.result = .ok forms) :
    Form.WellFormed forms ∧ Form.characters forms = source.toList := by
  obtain ⟨ts,hts⟩ := tokens_of_check hcheck
  obtain ⟨hf,rfl⟩ := Finds.ok_iff.mp ((check_result_iff hts).mp ⟨checked,hcheck,h⟩)
  obtain ⟨-,hlocate⟩ := tokenize_eq_ok_iff.mp hts
  refine ⟨hf,?_⟩
  rw [Form.characters,hlocate,map_char_locate]

/-- The summary of a balanced source counts its characters: how many are no braces, how many are
opening braces, and closing ones, and how many braces are open at most after a beginning of it. -/
theorem summary_counts_source (hcheck : check source = .ok checked)
    (h : checked.result = .ok forms) :
    (Summary.of forms).chars = source.toList.countP (fun c => c ≠ '\x7b' ∧ c ≠ '\x7d') ∧
    (Summary.of forms).blocks = source.toList.count '\x7b' ∧
    source.toList.count '\x7b' = source.toList.count '\x7d' ∧
    IsGreatest {depth : ℤ | ∃ front, front <+: source.toList ∧
      depth = front.count '\x7b' - front.count '\x7d'} (Summary.of forms).maxDepth ∧
    (Summary.of forms).chars + 2 * (Summary.of forms).blocks = source.length := by
  obtain ⟨hf,htext⟩ := characters_of_check hcheck h
  have hchars := hf.summary_chars
  have hblocks := hf.summary_blocks
  have hbalanced := hf.count_closing
  rw [htext] at hchars hblocks hbalanced
  obtain ⟨top,hpeak,htop⟩ := hf.visit_maxDepth {} 0 (Nat.le_refl 0)
  have hmax : (Summary.of forms).maxDepth = top := by
    rw [Summary.of,htop,Nat.zero_max]
  refine ⟨hchars,hblocks,hbalanced,?_,?_⟩
  · rw [htext] at hpeak
    rw [hmax]
    simpa [Peak,rise] using hpeak
  · have hlength := others_add_counts source.toList
    rw [String.length_toList] at hlength
    omega

/-- Two blocks with one character between their opening braces. -/
theorem summary_counts_source_of_nested :
    ∃ checked, check "\x7ba\x7b\x7d\x7d" = .ok checked ∧ ∃ forms, checked.result = .ok forms ∧
      (Summary.of forms).chars = 1 ∧ (Summary.of forms).blocks = 2 ∧
      IsGreatest {depth : ℤ | ∃ front, front <+: "\x7ba\x7b\x7d\x7d".toList ∧
        depth = front.count '\x7b' - front.count '\x7d'} (Summary.of forms).maxDepth := by
  have hts : tokenize "\x7ba\x7b\x7d\x7d" = .ok [⟨'\x7b',⟨1,1⟩⟩,⟨'a',⟨1,2⟩⟩,⟨'\x7b',⟨1,3⟩⟩,
      ⟨'\x7d',⟨1,4⟩⟩,⟨'\x7d',⟨1,5⟩⟩] := by decide
  have hf : Form.WellFormed [.block ⟨'\x7b',⟨1,1⟩⟩
      [.char ⟨'a',⟨1,2⟩⟩,.block ⟨'\x7b',⟨1,3⟩⟩ [] ⟨'\x7d',⟨1,4⟩⟩] ⟨'\x7d',⟨1,5⟩⟩] :=
    .block (by decide) (by decide)
      (.char (by decide) (by decide) (.block (by decide) (by decide) .nil .nil)) .nil
  obtain ⟨checked,hcheck,h⟩ := (check_result_iff hts).mpr (.balanced hf (by simp))
  obtain ⟨hchars,hblocks,-,hdepth,-⟩ := summary_counts_source hcheck h
  exact ⟨checked,hcheck,_,h,hchars.trans (by decide),hblocks.trans (by decide),hdepth⟩

end Backtrack.Braces
