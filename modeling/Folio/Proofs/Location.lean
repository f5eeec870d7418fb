import Folio.Text.Location
import Mathlib.Data.List.GetD
import Mathlib.Data.List.Induction

/-!
# Offsets and locations

Within a text a location counts line feeds and what stands behind the last of them
(`line_ofOffset`, `column_ofOffset`), and later offsets have later locations (`ofOffset_before`). A
table of the offsets at which lines start leads to the same locations by bisection, at all offsets,
those outside the text too (`search_eq_ofOffset`).
-/

namespace Folio.Text

namespace Location

/-! ## Counting -/

/-- The characters behind the last line feed. -/
def lastLine (s : List Char) : List Char :=
  (s.reverse.takeWhile (· ≠ '\n')).reverse

theorem after_concat (s : List Char) (c : Char) : after (s ++ [c]) = (after s).advance c := by
  simp [after]

theorem lastLine_concat (s : List Char) (c : Char) :
    lastLine (s ++ [c]) = if c = '\n' then [] else lastLine s ++ [c] := by
  by_cases feed : c = '\n' <;> simp [lastLine, feed]

/-- Characters lead to the line after those that they end, and behind the last line. -/
theorem after_eq (s : List Char) : after s = ⟨1 + s.count '\n', 1 + (lastLine s).length⟩ := by
  induction s using List.reverseRecOn with
  | nil => rfl
  | append_singleton s c ih =>
    rw [after_concat, ih, advance, lastLine_concat]
    split
    · next feed =>
      subst feed
      simp [Int.add_assoc]
    · next other =>
      have none : List.count '\n' [c] = 0 := List.count_eq_zero.2 (by simpa using Ne.symm other)
      simp [none, Int.add_assoc]

theorem ofOffset_of_le {source : List Char} {offset : Nat} (inside : offset ≤ source.length) :
    ofOffset source offset = after (source.take offset) := by
  have past : offset - source.length = 0 := by omega
  have start : ¬ (offset : Int) < 0 := by omega
  simp [ofOffset, start, past]

theorem line_ofOffset {source : List Char} {offset : Nat} (inside : offset ≤ source.length) :
    (ofOffset source offset).line = 1 + (source.take offset).count '\n' := by
  rw [ofOffset_of_le inside, after_eq]

theorem column_ofOffset {source : List Char} {offset : Nat} (inside : offset ≤ source.length) :
    (ofOffset source offset).column = 1 + (lastLine (source.take offset)).length := by
  rw [ofOffset_of_le inside, after_eq]

/-! ## Order -/

/-- Whether a location lies on an earlier line than another, or before it on the same line. -/
def Before (a b : Location) : Prop :=
  a.line < b.line ∨ a.line = b.line ∧ a.column < b.column

theorem Before.trans {a b c : Location} (one : Before a b) (two : Before b c) : Before a c := by
  unfold Before at *
  omega

theorem Before.ne {a b : Location} (before : Before a b) : a ≠ b := by
  rintro rfl
  unfold Before at before
  omega

theorem before_advance (l : Location) (c : Char) : Before l (l.advance c) := by
  unfold Before advance
  split
  · exact Or.inl (Int.lt_succ _)
  · exact Or.inr ⟨rfl, Int.lt_succ _⟩

theorem before_foldl {s : List Char} (some : s ≠ []) (l : Location) :
    Before l (s.foldl advance l) := by
  induction s generalizing l with
  | nil => exact absurd rfl some
  | cons c s ih =>
    by_cases last : s = []
    · subst last
      exact before_advance l c
    · exact (before_advance l c).trans (ih last _)

/-- Later offsets of a text have later locations. -/
theorem ofOffset_before {source : List Char} {first second : Nat} (later : first < second)
    (inside : second ≤ source.length) : Before (ofOffset source first) (ofOffset source second) := by
  have between : (source.take second).drop first ≠ [] :=
    List.ne_nil_of_length_pos (by simp only [List.length_drop, List.length_take]; omega)
  have front : (source.take second).take first = source.take first := by
    rw [List.take_take, Nat.min_eq_left (Nat.le_of_lt later)]
  have whole : after (source.take second) =
      ((source.take second).drop first).foldl advance (after (source.take first)) := by
    rw [after, after, ← List.foldl_append, ← front, List.take_append_drop]
  rw [ofOffset_of_le (by omega), ofOffset_of_le inside, whole]
  exact before_foldl between _

/-- A text has no two offsets with the same location. -/
theorem ofOffset_inj {source : List Char} {first second : Nat} (inside : first ≤ source.length)
    (inside' : second ≤ source.length) (same : ofOffset source first = ofOffset source second) :
    first = second := by
  rcases Nat.lt_trichotomy first second with less | equal | greater
  · exact absurd same (ofOffset_before less inside').ne
  · exact equal
  · exact absurd same.symm (ofOffset_before greater inside).ne

/-! ## Line starts -/

/-- The offsets at which lines start behind the line feeds of some characters. -/
def lineStartsFrom (offset : Nat) : List Char → List Nat
  | [] => []
  | c :: r =>
    if c = '\n' then (offset + 1) :: lineStartsFrom (offset + 1) r else lineStartsFrom (offset + 1) r

/-- The offsets at which the lines of a text start. -/
def lineStarts (source : List Char) : List Nat :=
  0 :: lineStartsFrom 0 source

theorem lineStarts_ne_nil (source : List Char) : lineStarts source ≠ [] :=
  List.cons_ne_nil _ _

theorem lineStartsFrom_append (offset : Nat) (s t : List Char) :
    lineStartsFrom offset (s ++ t) = lineStartsFrom offset s ++ lineStartsFrom (offset + s.length) t := by
  induction s generalizing offset with
  | nil => rfl
  | cons c s ih =>
    have moved : offset + 1 + s.length = offset + (c :: s).length := by
      rw [List.length_cons]
      omega
    simp only [List.cons_append, lineStartsFrom, ih, moved]
    split <;> rfl

theorem lineStarts_append (s t : List Char) :
    lineStarts (s ++ t) = lineStarts s ++ lineStartsFrom s.length t := by
  simp [lineStarts, lineStartsFrom_append]

theorem mem_lineStartsFrom {offset start : Nat} {s : List Char}
    (member : start ∈ lineStartsFrom offset s) : offset < start ∧ start ≤ offset + s.length := by
  induction s generalizing offset with
  | nil => cases member
  | cons c s ih =>
    rw [List.length_cons]
    unfold lineStartsFrom at member
    split at member
    · rcases List.mem_cons.1 member with rfl | member
      · omega
      · have := ih member
        omega
    · have := ih member
      omega

theorem mem_lineStarts {start : Nat} {s : List Char} (member : start ∈ lineStarts s) :
    start ≤ s.length := by
  rcases List.mem_cons.1 member with rfl | member
  · exact Nat.zero_le _
  · have := mem_lineStartsFrom member
    omega

/-- There is one line start for each line, and the column is counted from the last of them. -/
theorem after_eq_lineStarts (s : List Char) : after s =
    ⟨(lineStarts s).length, s.length - (lineStarts s).getLast (lineStarts_ne_nil _) + 1⟩ := by
  induction s using List.reverseRecOn with
  | nil => rfl
  | append_singleton s c ih =>
    rw [after_concat, ih, advance]
    by_cases feed : c = '\n'
    · simp [feed, lineStarts_append, lineStartsFrom]
    · simp [feed, lineStarts_append, lineStartsFrom]
      omega

/-! ## Bisection -/

/-- Halves a range of a table of ascending offsets down to the place behind those up to `offset`. -/
def bisect (starts : List Nat) (offset : Int) (low high : Nat) : Nat :=
  if low < high then
    let middle := (low + high) / 2
    if offset < starts.getD middle 0 then bisect starts offset low middle
    else bisect starts offset (middle + 1) high
  else low
termination_by high - low

/-- The location that a table of line starts gives an offset. Before the first line the table is read
from its end. -/
def search (source : List Char) (offset : Int) : Location :=
  let starts := lineStarts source
  let line := bisect starts offset 0 starts.length
  let start := if line = 0 then starts.getLastD 0 else starts.getD (line - 1) 0
  ⟨line, offset - start + 1⟩

/-- Bisection comes to the number of offsets up to the one that is looked for. -/
theorem bisect_eq {starts : List Nat} {offset : Int} {low high count : Nat}
    (least : low ≤ count) (most : count ≤ high)
    (split : ∀ i < high, (starts.getD i 0 : Int) ≤ offset ↔ i < count) :
    bisect starts offset low high = count := by
  fun_induction bisect starts offset low high with
  | case1 low high some middle less ih =>
    have other := split middle (by omega)
    exact ih least (by omega) fun i bound => split i (by omega)
  | case2 low high some middle less ih =>
    have other := split middle (by omega)
    exact ih (by omega) most split
  | case3 low high none => omega

theorem bisect_append {first second : List Nat} {offset : Int}
    (upTo : ∀ start ∈ first, (start : Int) ≤ offset) (past : ∀ start ∈ second, offset < start) :
    bisect (first ++ second) offset 0 (first ++ second).length = first.length := by
  refine bisect_eq (Nat.zero_le _) (by rw [List.length_append]; omega) fun i bound => ?_
  rcases Nat.lt_or_ge i first.length with early | late
  · have member : first.getD i 0 ∈ first := by
      rw [List.getD_eq_getElem _ _ early]
      exact List.getElem_mem early
    rw [List.getD_append _ _ _ _ early]
    exact ⟨fun _ => early, fun _ => upTo _ member⟩
  · rw [List.length_append] at bound
    have inside : i - first.length < second.length := by omega
    have member : second.getD (i - first.length) 0 ∈ second := by
      rw [List.getD_eq_getElem _ _ inside]
      exact List.getElem_mem inside
    rw [List.getD_append_right _ _ _ _ late]
    exact ⟨fun le => absurd le (Int.not_le.2 (past _ member)), fun early => by omega⟩

/-- The line starts of a text are those up to an offset and, behind them, those after it. -/
theorem lineStarts_eq_append (source : List Char) (offset : Nat) : ∃ more,
    lineStarts source = lineStarts (source.take offset) ++ more ∧ ∀ start ∈ more, offset < start := by
  refine ⟨lineStartsFrom (source.take offset).length (source.drop offset), ?_, fun start member => ?_⟩
  · rw [← lineStarts_append, List.take_append_drop]
  · have later := mem_lineStartsFrom member
    rw [List.length_take, List.length_drop] at later
    omega

/-- A table of line starts gives each offset its location. -/
theorem search_eq_ofOffset (source : List Char) (offset : Int) :
    search source offset = ofOffset source offset := by
  rcases Int.lt_or_le offset 0 with before | inside
  · have none : bisect (lineStarts source) offset 0 (lineStarts source).length = 0 :=
      @bisect_append [] _ _ nofun fun _ _ => by omega
    have last : (lineStarts source).getLastD 0 =
        (lineStarts source).getLast (lineStarts_ne_nil _) := rfl
    simp only [search, none, ofOffset, before, after_eq_lineStarts, if_true, last]
    congr 1
    omega
  · obtain ⟨offset, rfl⟩ := Int.eq_ofNat_of_zero_le inside
    obtain ⟨more, parts, past⟩ := lineStarts_eq_append source offset
    have upTo : ∀ start ∈ lineStarts (source.take offset), (start : Int) ≤ offset := by
      intro start member
      have := mem_lineStarts member
      rw [List.length_take] at this
      omega
    have found := bisect_append upTo fun start member => Int.ofNat_lt.2 (past start member)
    have some : (lineStarts (source.take offset)).length ≠ 0 := Nat.succ_ne_zero _
    have start : (lineStarts (source.take offset) ++ more).getD
        ((lineStarts (source.take offset)).length - 1) 0 =
          (lineStarts (source.take offset)).getLast (lineStarts_ne_nil _) := by
      rw [List.getD_append _ _ _ _ (by omega), List.getD_eq_getElem _ _ (by omega),
        List.getLast_eq_getElem]
    simp only [search, parts, found, if_neg some, start, ofOffset, Int.not_lt.2 inside, if_false,
      after_eq_lineStarts, Int.toNat_natCast, List.length_take]
    congr 1
    omega

end Location

end Folio.Text
