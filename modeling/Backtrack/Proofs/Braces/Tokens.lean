import Backtrack.Braces.Located
import Backtrack.Proofs.Position.After

/-!
The tokens of a source, and the places at which they stand. A source is divided into its characters,
each at the place after those before it, and the tokens of two sources in a row are those of the
first and, moved, those of the second.
-/
namespace Backtrack.Braces

open Position (after Counted)

/-- The same character, where the text begins at `origin`. -/
def Located.moved (origin : Position) (t : Located) : Located := ⟨t.char,origin.moved t.position⟩

/-- The characters of a text, each at the place after those before it. -/
def locate (cs : List Char) : List Located := cs.mapIdx fun i c => ⟨c,after (cs.take i)⟩

variable {front back cs : List Char} {ts : List Located}

@[simp] theorem locate_nil : locate [] = [] := rfl

@[simp] theorem length_locate (cs : List Char) : (locate cs).length = cs.length := by
  simp [locate]

lemma getElem?_locate (cs : List Char) (i : ℕ) :
    (locate cs)[i]? = cs[i]?.map fun c => ⟨c,after (cs.take i)⟩ := by
  simp [locate]

@[simp] theorem map_char_locate (cs : List Char) : (locate cs).map Located.char = cs := by
  apply List.ext_getElem?
  intro i
  rw [List.getElem?_map,getElem?_locate]
  cases cs[i]? <;> rfl

theorem locate_append (front back : List Char) :
    locate (front ++ back) = locate front ++ (locate back).map (.moved (after front)) := by
  apply List.ext_getElem?
  intro i
  by_cases hi : i < front.length
  · have htake : (front ++ back).take i = front.take i :=
      List.take_append_of_le_length (Nat.le_of_lt hi)
    rw [getElem?_locate,List.getElem?_append_left hi,htake,
      List.getElem?_append_left (by simpa using hi),getElem?_locate]
  · have htake : (front ++ back).take i = front ++ back.take (i - front.length) := by
      rw [List.take_append,List.take_of_length_le (Nat.not_lt.mp hi)]
    rw [getElem?_locate,List.getElem?_append_right (Nat.not_lt.mp hi),htake,
      List.getElem?_append_right (by simpa using hi),List.getElem?_map,length_locate,
      getElem?_locate,Position.after_append]
    cases back[i - front.length]? <;> rfl

lemma locate_concat (front : List Char) (c : Char) :
    locate (front ++ [c]) = locate front ++ [⟨c,after front⟩] := by
  rw [locate_append]
  simp [locate,Located.moved,Position.moved,Position.start]

/-- Characters behind `front` are located one after the other, if there are places for all. -/
lemma tokenizeFrom_eq_ok_iff (hfront : Counted front) :
    tokenizeFrom (locate front).reverse (after front) cs = .ok ts ↔
      Counted (front ++ cs) ∧ ts = locate (front ++ cs) := by
  induction cs generalizing front with
  | nil => simp [tokenizeFrom,hfront,eq_comm]
  | cons c cs ih =>
    have hsplit : front ++ c :: cs = (front ++ [c]) ++ cs := by simp
    rw [hsplit,tokenizeFrom]
    by_cases hfits : (after (front ++ [c])).Fits
    · have hbump := (Position.bump_after hfront.last).mpr ⟨hfits,rfl⟩
      have hacc : ⟨c,after front⟩ :: (locate front).reverse = (locate (front ++ [c])).reverse := by
        simp [locate_concat]
      rw [hbump]
      simp only [hacc]
      exact ih (Position.counted_concat.mpr ⟨hfront,hfits⟩)
    · have hnot : ¬ Counted ((front ++ [c]) ++ cs) := fun h =>
        hfits (h.of_prefix (List.prefix_append ..)).last
      have hbump : ∀ p, (after front).bump c ≠ .ok p := fun p hp =>
        hfits ((Position.bump_after hfront.last).mp hp).1
      cases hnext : (after front).bump c with
      | error reason =>
        constructor
        · intro h
          cases h
        · intro h
          exact absurd h.1 hnot
      | ok p => exact absurd hnext (hbump p)

/-- A source is divided into its located characters exactly if there are places for all of them. -/
theorem tokenize_eq_ok_iff {source : String} :
    tokenize source = .ok ts ↔ Counted source.toList ∧ ts = locate source.toList := by
  have h : tokenizeFrom [] .start source.toList = .ok ts ↔ _ :=
    tokenizeFrom_eq_ok_iff Position.counted_nil
  exact h

/-- Later characters stand at later places. -/
lemma pairwise_locate (cs : List Char) :
    (locate cs).Pairwise fun t u => compare t.position u.position = .lt := by
  rw [List.pairwise_iff_getElem]
  intro i j hi hj hij
  rw [length_locate] at hi hj
  obtain ⟨k,rfl⟩ := Nat.exists_eq_add_of_lt hij
  have hback : (cs.drop i).take (k + 1) ≠ [] := by
    rw [← List.length_pos_iff]
    simp
    omega
  have htake : cs.take (i + k + 1) = cs.take i ++ (cs.drop i).take (k + 1) := by
    rw [Nat.add_assoc,List.take_add]
  simp only [locate,List.getElem_mapIdx,htake]
  exact Position.after_lt_append _ hback

/-- A source whose places can be counted has one token for every character in order. It stands on
the line after as many newlines as come before it, and in the column after as many characters as
come between the last of them and it; so later tokens stand at later places, and all tokens differ.
-/
theorem tokenize_places (source : String) :
    ((∃ ts, tokenize source = .ok ts) ↔ Counted source.toList) ∧
    ∀ ts, tokenize source = .ok ts →
      ts.map Located.char = source.toList ∧
      (∀ i t, ts[i]? = some t → t.position = after (source.toList.take i)) ∧
      (ts.Pairwise fun t u => compare t.position u.position = .lt) ∧ ts.Nodup := by
  constructor
  · simp [tokenize_eq_ok_iff]
  · intro ts hts
    obtain ⟨-,rfl⟩ := tokenize_eq_ok_iff.mp hts
    have hpairwise := pairwise_locate source.toList
    refine ⟨map_char_locate _,?_,hpairwise,?_⟩
    · intro i t ht
      rw [getElem?_locate] at ht
      obtain ⟨c,-,rfl⟩ := Option.map_eq_some_iff.mp ht
      rfl
    · apply hpairwise.imp
      rintro t u hlt rfl
      have h := Position.compare_eq_lt.mp hlt
      omega

theorem tokenize_places_of_lines :
    tokenize "a\n\nb" = .ok [⟨'a',⟨1,1⟩⟩,⟨'\n',⟨1,2⟩⟩,⟨'\n',⟨2,1⟩⟩,⟨'b',⟨3,1⟩⟩] ∧
    after ("a\n\nb".toList.take 3) = ⟨3,1⟩ := by
  have hts : tokenize "a\n\nb" =
      .ok [⟨'a',⟨1,1⟩⟩,⟨'\n',⟨1,2⟩⟩,⟨'\n',⟨2,1⟩⟩,⟨'b',⟨3,1⟩⟩] := by decide
  obtain ⟨-,hplaces,-⟩ := (tokenize_places _).2 _ hts
  exact ⟨hts,(hplaces 3 _ rfl).symm⟩

end Backtrack.Braces
