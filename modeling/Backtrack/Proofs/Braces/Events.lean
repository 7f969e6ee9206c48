import Backtrack.Event
import Backtrack.Proofs.Braces.Scan

/-!
The events of a check, told in one pass over its tokens. The pass only has to know where it is, and
how many forms have been read in each of the sequences around; it takes one turn for each token.
-/
namespace Backtrack.Braces.Grammar

/-- What is reported at the token `t`. The innermost sequence has `count` forms before it, and
`outer` holds the numbers of forms of the sequences around that, the inner ones first. -/
def eventsAt (count : ℕ) (outer : List ℕ) (offset : ℕ) (t : Located) : List Event :=
  if t.Opens then [.item offset,.plusBacktrack offset,.item offset]
  else if t.Closes then
    if outer = [] then [.item offset,.plusBacktrack offset,.item offset]
    else [.item offset,.plusBacktrack offset,.item offset,.plusBacktrack offset,.item offset,
      .many0Done count offset,.item offset]
  else [.item offset,.plusBacktrack offset,.item offset,.item offset]

/-- The numbers of forms after the token `t`, unless it closes what is not open. -/
def turn (count : ℕ) (outer : List ℕ) (t : Located) : Option (ℕ × List ℕ) :=
  if t.Opens then some (0,count :: outer)
  else if t.Closes then outer.head?.map fun m => (m + 1,outer.tail)
  else some (count + 1,outer)

/-- What is reported from the token at `offset` on. -/
def eventsFrom (count : ℕ) (outer : List ℕ) (offset : ℕ) : List Located → List Event
  | [] => [.plusBacktrack offset,.plusBacktrack offset,.many0Done count offset] ++
      if outer = [] then [] else [.commitEscalated offset]
  | t :: ts => eventsAt count outer offset t ++
      match turn count outer t with
      | none => []
      | some (m,rest) => eventsFrom m rest (offset + 1) ts

/-- What is reported behind a sequence that ends at `offset`, where its closing brace must come. -/
def eventsBehind (outer : List ℕ) (offset : ℕ) (ts : List Located) : List Event :=
  match outer, ts with
  | [], _ => []
  | _ :: _, [] => [.commitEscalated offset]
  | m :: rest, _ :: ts => .item offset :: eventsFrom (m + 1) rest (offset + 1) ts

variable {count m offset : ℕ} {outer rest : List ℕ} {t : Located} {ts : List Located}

lemma eventsBehind_nil : eventsBehind (m :: rest) offset [] = [.commitEscalated offset] := rfl

lemma eventsBehind_cons : eventsBehind (m :: rest) offset (t :: ts) =
    .item offset :: eventsFrom (m + 1) rest (offset + 1) ts := rfl

lemma eventsFrom_nil : eventsFrom count outer offset [] =
    [.plusBacktrack offset,.plusBacktrack offset] ++
      .many0Done count offset :: eventsBehind outer offset [] := by
  cases outer <;> rfl

lemma eventsFrom_opens (h : t.Opens) : eventsFrom count outer offset (t :: ts) =
    [.item offset,.plusBacktrack offset,.item offset] ++
      eventsFrom 0 (count :: outer) (offset + 1) ts := by
  rw [eventsFrom,eventsAt,turn,if_pos h,if_pos h]

lemma eventsFrom_unmatched (h : t.Closes) : eventsFrom count [] offset (t :: ts) =
    [.item offset,.plusBacktrack offset,.item offset] := by
  have ho : ¬ t.Opens := fun ho => ho.not_closes h
  rw [eventsFrom,eventsAt,turn,if_neg ho,if_neg ho,if_pos h,if_pos h]
  rfl

lemma eventsFrom_closes (h : t.Closes) : eventsFrom count (m :: rest) offset (t :: ts) =
    [.item offset,.plusBacktrack offset,.item offset,.plusBacktrack offset,.item offset] ++
      .many0Done count offset :: eventsBehind (m :: rest) offset (t :: ts) := by
  have ho : ¬ t.Opens := fun ho => ho.not_closes h
  rw [eventsFrom,eventsAt,turn,if_neg ho,if_neg ho,if_pos h,if_pos h]
  rfl

lemma eventsFrom_plain (ho : ¬ t.Opens) (hc : ¬ t.Closes) :
    eventsFrom count outer offset (t :: ts) =
      [.item offset,.plusBacktrack offset,.item offset,.item offset] ++
        eventsFrom (count + 1) outer (offset + 1) ts := by
  rw [eventsFrom,eventsAt,turn,if_neg ho,if_neg ho,if_neg hc,if_neg hc]

end Backtrack.Braces.Grammar
