import Folio.Text.Blank
import Folio.Text.Letter

/-!
# Numbers

Whole numbers as a person writes them: decimal digits of any script, single underscores between
digits, a sign and blanks around.
-/

namespace Folio.Text

/-- The value of a decimal digit of any script. -/
def digitValue? (c : Char) : Option Nat :=
  if isAsciiDigit c then some (c.toNat - 48)
  else (decimalDigits.find? fun r => r.1 ≤ c.toNat && c.toNat ≤ r.2).map fun r =>
    (c.toNat - r.1) % 10

/-- The number that some digits write. -/
def decimalValue (digits : List Char) : Nat :=
  digits.foldl (fun n c => n * 10 + (digitValue? c).getD 0) 0

/-- The number that a text begins with and what follows it; `none` without a digit. -/
def leadingNumber (s : List Char) : Option (Nat × List Char) :=
  let digits := s.takeWhile fun c => (digitValue? c).isSome
  if digits.isEmpty then none
  else some (decimalValue digits, s.drop digits.length)

/-- The digits of a number without the underscores between them; `none` if it is no number. -/
def groupedDigits : List Char → Option (List Char)
  | [] => none
  | [c] => if (digitValue? c).isSome then some [c] else none
  | c :: '_' :: r =>
    if (digitValue? c).isSome then (groupedDigits r).map (c :: ·) else none
  | c :: r => if (digitValue? c).isSome then (groupedDigits r).map (c :: ·) else none

/-- The length of digits with single underscores before them or between them. -/
def groupedLength (isDigit : Char → Bool) : List Char → Nat
  | '_' :: c :: r => if isDigit c then groupedLength isDigit r + 2 else 0
  | c :: r => if isDigit c then groupedLength isDigit r + 1 else 0
  | [] => 0

def withoutUnderscores (s : List Char) : List Char :=
  s.filter (· ≠ '_')

/-- The greatest count of decimal digits of a number that is read or written. -/
def maxDigits : Nat := 4300

/-- A sign and what follows it; no sign stands for a positive number. -/
def splitSign : List Char → Int × List Char
  | '-' :: r => (-1, r)
  | '+' :: r => (1, r)
  | s => (1, s)

/-- The whole number that a text writes; `none` if it is none, or has too many digits. -/
def integer? (s : String) : Option Int :=
  let (sign, digits) := splitSign (trimBy isBlank s.toList)
  ((groupedDigits digits).filter (·.length ≤ maxDigits)).map fun digits =>
    sign * decimalValue digits

end Folio.Text
