/-!
# Blanks

The blanks of every script: ASCII spacing, the information separators, the next-line control and
the Unicode spaces. Zero-width characters are not blanks. `trim` removes blanks at both ends and
`squish` also turns each run inside into one space.
-/

namespace Folio.Text

def isBlank (c : Char) : Bool :=
  let n := c.toNat
  n == 0x20 || (0x09 ≤ n && n ≤ 0x0D) || (0x1C ≤ n && n ≤ 0x1F) || n == 0x85 || n == 0xA0
    || n == 0x1680 || (0x2000 ≤ n && n ≤ 0x200A) || n == 0x2028 || n == 0x2029 || n == 0x202F
    || n == 0x205F || n == 0x3000

theorem isBlank_of_isWhitespace {c : Char} (h : c.isWhitespace = true) : isBlank c = true := by
  simp only [Char.isWhitespace, Bool.or_eq_true, decide_eq_true_eq] at h
  rcases h with ((h | h) | h) | h <;> subst h <;> decide

/-- The text without leading characters of a class. -/
def trimStart (p : Char → Bool) (s : List Char) : List Char :=
  s.dropWhile p

/-- The text without trailing characters of a class. -/
def trimEnd (p : Char → Bool) (s : List Char) : List Char :=
  (s.reverse.dropWhile p).reverse

def trimBy (p : Char → Bool) (s : List Char) : List Char :=
  trimEnd p (trimStart p s)

/-- The text without blanks at its ends. -/
def trim (s : String) : String :=
  String.ofList (trimBy isBlank s.toList)

/-- The words of a text that lie between blanks. -/
def words : List Char → List Char → List (List Char)
  | word, [] => if word.isEmpty then [] else [word.reverse]
  | word, c :: r =>
    if isBlank c then
      if word.isEmpty then words [] r else word.reverse :: words [] r
    else words (c :: word) r

/-- Each run of blanks becomes one space and the ends are trimmed. -/
def squish (s : String) : String :=
  String.ofList (List.intercalate [' '] (words [] s.toList))

end Folio.Text
