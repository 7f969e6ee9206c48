import Backtrack.Proofs.Braces.Overflow
import Backtrack.Proofs.Text.Quoted

/-!
Sources, listed character by character. An entry holds the place of a character, a tab and the
quoted character. No entry breaks its line, and the source is read back from what stands behind the
tabs.
-/
namespace Backtrack.Braces

open Position (after TooLong Counted)

/-- The entry of a token, where `hidden` says what quotes do not show. -/
def Located.listingWith (hidden : Char → Bool) (t : Located) : String :=
  t.position.text ++ "\t" ++ String.ofList (Text.quoted hidden '\x27' [t.char])

/-- The entries of a source, where `hidden` says what quotes do not show. -/
def listTokensWith (hidden : Char → Bool) (source : String) : Except Fault (List String) :=
  (tokenize source).map (·.map (Located.listingWith hidden))

/-- The character of an entry: behind the tab, and within the quotes. -/
def listed? (line : String) : Option Char :=
  Text.unescape? ((line.toList.dropWhile (· ≠ '\t')).drop 2).dropLast

variable {hidden : Char → Bool} {source : String} {lines : List String}

theorem listTokens_eq : listTokens = listTokensWith Text.isHidden := rfl

lemma toList_text (p : Position) :
    p.text.toList = Nat.toDigits 10 p.line ++ ':' :: Nat.toDigits 10 p.column := by
  simp only [Position.text,String.toList_append,Nat.toString_eq_ofList_toDigits,
    String.toList_ofList,List.append_assoc]
  rfl

/-- A place is written by digits and a colon. -/
lemma notMem_text {c : Char} (hdigit : ∀ k, Nat.digitChar k ≠ c) (hcolon : c ≠ ':') (p : Position) :
    c ∉ p.text.toList := by
  have hdigits : ∀ n, c ∉ Nat.toDigits 10 n := Text.notMem_toDigits hdigit (by decide)
  rw [toList_text]
  simp [hdigits,hcolon]

lemma toList_listingWith (hidden : Char → Bool) (t : Located) :
    (t.listingWith hidden).toList =
      t.position.text.toList ++ '\t' :: '\x27' :: (Text.escape hidden '\x27' t.char ++ ['\x27']) := by
  simp [Located.listingWith,Text.quoted]

lemma listed?_listingWith (hidden : Char → Bool) (t : Located) :
    listed? (t.listingWith hidden) = some t.char := by
  have hplace : ∀ c ∈ t.position.text.toList, decide (c ≠ '\t') = true := by
    rintro c hc
    have htab := notMem_text (fun k => Nat.digitChar_ne '\t' rfl) (by decide) t.position
    exact decide_eq_true fun h => htab (h ▸ hc)
  rw [listed?,toList_listingWith,List.dropWhile_append_of_pos hplace,
    List.dropWhile_cons_of_neg (by decide),List.drop_succ_cons,List.drop_succ_cons,List.drop_zero,
    List.dropLast_concat,Text.unescape?_escape]

lemma newline_notMem_listingWith (hidden : Char → Bool) (t : Located) :
    '\n' ∉ (t.listingWith hidden).toList := by
  have hplace := notMem_text (fun k => Nat.digitChar_ne '\n' rfl) (by decide) t.position
  rw [toList_listingWith]
  simp [hplace,Text.newline_notMem_escape]

lemma listTokensWith_eq_ok_iff : listTokensWith hidden source = .ok lines ↔
    Counted source.toList ∧ lines = (locate source.toList).map (Located.listingWith hidden) := by
  constructor
  · intro h
    rw [listTokensWith] at h
    cases hts : tokenize source with
    | error reason =>
      rw [hts] at h
      cases h
    | ok ts =>
      obtain ⟨hcounted,rfl⟩ := tokenize_eq_ok_iff.mp hts
      rw [hts] at h
      exact ⟨hcounted,(Except.ok.inj h).symm⟩
  · rintro ⟨hcounted,rfl⟩
    rw [listTokensWith,tokenize_eq_ok_iff.mpr ⟨hcounted,rfl⟩]
    rfl

/-- The characters are read back from the entries. -/
lemma mapM_listed? (ts : List Located) :
    (ts.map (Located.listingWith hidden)).mapM listed? = some (ts.map Located.char) := by
  induction ts with
  | nil => rfl
  | cons t ts ih => simp [listed?_listingWith,ih]

/-- Whatever set of characters is hidden, a source whose places can be counted is listed by one entry
for every character in order, with its place and the quoted character. No entry has a newline, and
the characters are read back from the entries, so sources with the same entries are the same. -/
theorem listTokens_recoverable (hidden : Char → Bool) :
    listTokens = listTokensWith Text.isHidden ∧
    (∀ source : String, ¬ TooLong source.toList → ∃ lines,
      listTokensWith hidden source = .ok lines ∧ lines.length = source.toList.length ∧
      (∀ i c, source.toList[i]? = some c →
        lines[i]? = some ((after (source.toList.take i)).text ++ "\t" ++
          String.ofList (Text.quoted hidden '\x27' [c]))) ∧
      (∀ line ∈ lines, '\n' ∉ line.toList) ∧ lines.mapM listed? = some source.toList) ∧
    ∀ source other lines, listTokensWith hidden source = .ok lines →
      listTokensWith hidden other = .ok lines → source = other := by
  refine ⟨listTokens_eq,fun source hfits => ?_,fun source other lines hsource hother => ?_⟩
  · have hcounted : Counted source.toList := Position.counted_iff.mpr hfits
    refine ⟨_,listTokensWith_eq_ok_iff.mpr ⟨hcounted,rfl⟩,by simp,fun i c hc => ?_,fun line hline => ?_,?_⟩
    · rw [List.getElem?_map,getElem?_locate,hc]
      rfl
    · obtain ⟨t,-,rfl⟩ := List.mem_map.mp hline
      exact newline_notMem_listingWith hidden t
    · rw [mapM_listed?,map_char_locate]
  · obtain ⟨-,rfl⟩ := listTokensWith_eq_ok_iff.mp hsource
    obtain ⟨-,hlines⟩ := listTokensWith_eq_ok_iff.mp hother
    have hchars := congrArg (List.mapM listed?) hlines
    rw [mapM_listed?,mapM_listed?,map_char_locate,map_char_locate] at hchars
    exact String.toList_inj.mp (Option.some.inj hchars)

/-- A newline, a quote and a hidden character are listed by three kinds of escapes. -/
theorem listTokens_recoverable_of_escapes :
    let lines := ["1:1\t'\\n'","2:1\t'\\''","2:2\t'\\u\x7b7f\x7d'"]
    ¬ TooLong "\n'\x7f".toList ∧ listTokens "\n'\x7f" = .ok lines ∧
      lines.mapM listed? = some ['\n','\x27','\x7f'] := by
  intro lines
  have hlist : listTokensWith Text.isHidden "\n'\x7f" = .ok lines := by decide
  have hfits : ¬ TooLong "\n'\x7f".toList :=
    Position.counted_iff.mp (listTokensWith_eq_ok_iff.mp hlist).1
  obtain ⟨hlistTokens,hlisted,-⟩ := listTokens_recoverable Text.isHidden
  obtain ⟨read,hread,-,-,-,hchars⟩ := hlisted _ hfits
  obtain rfl : read = lines := Except.ok.inj (hread.symm.trans hlist)
  exact ⟨hfits,hlistTokens ▸ hlist,hchars⟩

end Backtrack.Braces
