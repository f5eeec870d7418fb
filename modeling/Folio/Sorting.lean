/-!
# Sorting

`sortBy` puts the elements of a list in an order; elements of equal rank stay as they stood.
-/

namespace Folio

variable {α : Type}

/-- Puts an element before the first one that it may stand before. -/
def insertBy (before : α → α → Bool) (a : α) : List α → List α
  | [] => [a]
  | b :: rest => if before a b then a :: b :: rest else b :: insertBy before a rest

def sortBy (before : α → α → Bool) : List α → List α
  | [] => []
  | a :: rest => insertBy before a (sortBy before rest)

theorem perm_insertBy (before : α → α → Bool) (a : α) (rest : List α) :
    (insertBy before a rest).Perm (a :: rest) := by
  induction rest with
  | nil => exact List.Perm.refl _
  | cons b rest ih =>
    unfold insertBy
    split
    · exact List.Perm.refl _
    · exact (ih.cons b).trans (List.Perm.swap a b rest)

theorem perm_sortBy (before : α → α → Bool) (elements : List α) :
    (sortBy before elements).Perm elements := by
  induction elements with
  | nil => exact List.Perm.refl _
  | cons a rest ih => exact (perm_insertBy before a _).trans (ih.cons a)

theorem mem_sortBy {before : α → α → Bool} {a : α} {elements : List α} :
    a ∈ sortBy before elements ↔ a ∈ elements :=
  (perm_sortBy before elements).mem_iff

end Folio
