import Folio.Text.Letter

/-!
# Styled text

Text for a terminal holds marks that switch a style on and off. `plain` leaves the marks out, for
everything that is no terminal.
-/

namespace Folio.Text

/-- A text in a terminal style. -/
def styled (code text : String) : String :=
  "\x1b[" ++ code ++ "m" ++ text ++ "\x1b[0m"

/-- What follows the mark whose parameters begin here; `none` if there is none. -/
def afterMark (s : List Char) : Option (List Char) :=
  match s.dropWhile fun c => isAsciiDigit c || c == ';' || c == '?' with
  | c :: r => if isAsciiLetter c then some r else none
  | [] => none

theorem length_afterMark {s r : List Char} (h : afterMark s = some r) : r.length < s.length := by
  unfold afterMark at h
  split at h
  · next c rest hrest =>
    split at h
    · injection h with h
      subst h
      have shorter := (List.dropWhile_suffix (l := s)
        fun c => isAsciiDigit c || c == ';' || c == '?').length_le
      rw [hrest, List.length_cons] at shorter
      omega
    · simp at h
  · simp at h

/-- The characters that are no part of a mark. -/
def withoutMarks : List Char → List Char
  | '\x1b' :: '[' :: s =>
    match h : afterMark s with
    | some r =>
      have := length_afterMark h
      withoutMarks r
    | none => '\x1b' :: withoutMarks ('[' :: s)
  | c :: s => c :: withoutMarks s
  | [] => []
termination_by s => s.length

/-- A text without the marks of styles. -/
def plain (s : String) : String :=
  String.ofList (withoutMarks s.toList)

end Folio.Text
