import Folio.Sorting

/-!
# Sorting lists in different orders

Two orders of the same elements are sorted into lists that differ by swaps of neighbours of equal
rank, no more (`reordered_sortBy`).
-/

namespace Folio

variable {α β : Type} {same other : α → α → Prop} {one two three : List α} {a b : α}

/-- Whether a list comes of another by swaps of neighbours that are the same in some respect. -/
inductive Reordered (same : α → α → Prop) : List α → List α → Prop
  | nil : Reordered same [] []
  | cons (a : α) {one two : List α} : Reordered same one two → Reordered same (a :: one) (a :: two)
  | swap {a b : α} (rest : List α) :
      same a b → Reordered same (a :: b :: rest) (b :: a :: rest)
  | trans {one two three : List α} :
      Reordered same one two → Reordered same two three → Reordered same one three

namespace Reordered

theorem refl (elements : List α) : Reordered same elements elements := by
  induction elements with
  | nil => exact .nil
  | cons a _ ih => exact ih.cons a

theorem perm (reordered : Reordered same one two) : one.Perm two := by
  induction reordered with
  | nil => exact .nil
  | cons a _ ih => exact ih.cons a
  | swap rest _ => exact .swap ..
  | trans _ _ ih ih' => exact ih.trans ih'

theorem imp (reordered : Reordered same one two)
    (weaker : ∀ a ∈ one, ∀ b ∈ one, same a b → other a b) : Reordered other one two := by
  induction reordered with
  | nil => exact .nil
  | cons a _ ih =>
    exact (ih fun b member c member' => weaker b (List.mem_cons_of_mem _ member) c
      (List.mem_cons_of_mem _ member')).cons a
  | swap rest alike => exact .swap rest (weaker _ (by simp) _ (by simp) alike)
  | trans first _ ih ih' =>
    exact (ih weaker).trans (ih' fun b member c member' => weaker b (first.perm.mem_iff.2 member) c
      (first.perm.mem_iff.2 member'))

theorem append_right (reordered : Reordered same one two) (rest : List α) :
    Reordered same (one ++ rest) (two ++ rest) := by
  induction reordered with
  | nil => exact refl rest
  | cons a _ ih => exact ih.cons a
  | swap more alike => exact .swap (more ++ rest) alike
  | trans _ _ ih ih' => exact ih.trans ih'

theorem append_left (first : List α) (reordered : Reordered same one two) :
    Reordered same (first ++ one) (first ++ two) := by
  induction first with
  | nil => exact reordered
  | cons a _ ih => exact ih.cons a

end Reordered

section Sorting

variable {before : α → α → Bool}

/-- Whether two elements may stand in either order. -/
def Tied (before : α → α → Bool) (a b : α) : Prop :=
  before a b = true ∧ before b a = true

variable (trans : ∀ a b c, before a b = true → before b c = true → before a c = true)

include trans

theorem reordered_insertBy (a : α) (reordered : Reordered (Tied before) one two) :
    Reordered (Tied before) (insertBy before a one) (insertBy before a two) := by
  induction reordered with
  | nil => exact .refl _
  | cons b tail ih =>
    unfold insertBy
    split
    · exact (tail.cons b).cons a
    · exact ih.cons b
  | @swap b c rest tied =>
    have both : before a b = before a c := by
      rw [Bool.eq_iff_iff]
      exact ⟨fun first => trans a b c first tied.1, fun first => trans a c b first tied.2⟩
    by_cases first : before a b = true
    · have first' := both ▸ first
      simp only [insertBy, first, first', if_true]
      exact (Reordered.swap rest tied).cons a
    · have first' := both ▸ first
      simp only [insertBy, first, first']
      exact .swap _ tied
  | trans _ _ ih ih' => exact ih.trans ih'

variable (total : ∀ a b, before a b = true ∨ before b a = true)

include total

theorem insertBy_comm (a b : α) (elements : List α) : Reordered (Tied before)
    (insertBy before a (insertBy before b elements))
    (insertBy before b (insertBy before a elements)) := by
  have first (rest : List α) : Reordered (Tied before)
      (if before a b = true then a :: b :: rest else b :: a :: rest)
      (if before b a = true then b :: a :: rest else a :: b :: rest) := by
    by_cases one : before a b = true <;> by_cases two : before b a = true
    · simp only [one, two, if_true]
      exact .swap rest ⟨one, two⟩
    · simp only [one, two, if_true]
      exact .refl _
    · simp only [one, two, if_true]
      exact .refl _
    · exact absurd (total a b) (by simp [one, two])
  induction elements with
  | nil => exact first []
  | cons c rest ih =>
    by_cases one : before a c = true <;> by_cases two : before b c = true
    · simp only [insertBy, one, two, if_true]
      exact first (c :: rest)
    · have later : ¬ before b a = true := fun lead => two (trans b a c lead one)
      simp only [insertBy, one, two, later, if_true, Bool.false_eq_true, if_false]
      exact .refl _
    · have later : ¬ before a b = true := fun lead => one (trans a b c lead two)
      simp only [insertBy, one, two, later, if_true, Bool.false_eq_true, if_false]
      exact .refl _
    · simp only [insertBy, one, two, Bool.false_eq_true, if_false]
      exact ih.cons c

theorem reordered_sortBy (perm : one.Perm two) :
    Reordered (Tied before) (sortBy before one) (sortBy before two) := by
  induction perm with
  | nil => exact .nil
  | cons a _ ih => exact reordered_insertBy trans a ih
  | swap a b rest => exact insertBy_comm trans total b a _
  | trans _ _ ih ih' => exact ih.trans ih'

end Sorting

end Folio
