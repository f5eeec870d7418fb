/-!
# Splitting and joining

`splitOn` cuts a text at each occurrence of a separator and `joinWith` puts the pieces together
again: `joinWith_splitOn` says that nothing is lost.
-/

namespace Folio.Text

/-- The pieces of a text between the occurrences of a separator; there is always one. -/
def splitOn (sep : Char) : List Char → List (List Char)
  | [] => [[]]
  | c :: r =>
    if c = sep then [] :: splitOn sep r
    else
      match splitOn sep r with
      | [] => [[c]]
      | piece :: pieces => (c :: piece) :: pieces

def joinWith (sep : Char) : List (List Char) → List Char
  | [] => []
  | [piece] => piece
  | piece :: pieces => piece ++ sep :: joinWith sep pieces

theorem splitOn_ne_nil (sep : Char) (s : List Char) : splitOn sep s ≠ [] := by
  cases s with
  | nil => simp [splitOn]
  | cons c r =>
    unfold splitOn
    split
    · simp
    · split <;> simp

theorem joinWith_splitOn (sep : Char) (s : List Char) : joinWith sep (splitOn sep s) = s := by
  induction s with
  | nil => rfl
  | cons c r ih =>
    unfold splitOn
    have nonempty := splitOn_ne_nil sep r
    split
    · next h =>
      subst h
      cases hr : splitOn c r with
      | nil => exact absurd hr nonempty
      | cons p ps => rw [hr] at ih; simp [joinWith, ih]
    · cases hr : splitOn sep r with
      | nil => exact absurd hr nonempty
      | cons p ps =>
        rw [hr] at ih
        cases ps with
        | nil => simpa [joinWith] using ih
        | cons q qs => simpa [joinWith] using ih

end Folio.Text
