import Folio.Text.Letter

/-!
# Compact scripts

`compact` leaves out blanks and comments where the script reads the same without them. Literals
stay as they are. Between two characters that have been apart a line end remains where a statement
may end there, and a space where two words or signs would run together.

A slash is told from the beginning of a pattern by what stands before it alone, so that a division
after a sign is taken for a pattern when another slash follows on its line.
-/

namespace Folio.Script

namespace Compact

open Text

def isSpace (c : Char) : Bool :=
  c.toNat ≤ 32

def isLineEnd (c : Char) : Bool :=
  c == '\n' || c == '\r'

/-- A character of a name or number. -/
def isWordPart (c : Char) : Bool :=
  isAsciiLetter c || isAsciiDigit c || c == '_' || c == '$' || 127 ≤ c.toNat

/-- Whether a statement may end with a character. -/
def mayEnd (c : Char) : Bool :=
  isWordPart c || c == '\x7d' || c == ']' || c == ')' || c == '"' || c == '\'' || c == '`'
    || c == '+' || c == '-'

/-- Whether a statement may begin with a character. -/
def mayBegin (c : Char) : Bool :=
  isWordPart c || c == '\x7b' || c == '[' || c == '(' || c == '!' || c == '+' || c == '-'

/-- Whether a statement may begin with a character after a line that ends with a pattern. -/
def mayFollowPattern (c : Char) : Bool :=
  !isSpace c && !"\x7d])?:|,;.&=+-".toList.contains c

/-- What remains between two characters that were apart. `pattern` tells whether the left one ends
a pattern. -/
def separator (left right : Char) (lineEnd pattern : Bool) : List Char :=
  if lineEnd then
    if mayEnd left && mayBegin right || pattern && mayFollowPattern right then ['\n'] else []
  else if isWordPart left && isWordPart right || left == '+' && right == '+'
      || left == '-' && right == '-' then [' ']
  else []

/-- The number of characters of a block comment after its opening mark. -/
def blockLength : List Char → Option Nat
  | '*' :: '/' :: _ => some 2
  | _ :: r => (blockLength r).map (· + 1)
  | [] => none

/-- The number of further characters of a literal that begins with a quote; only one between back
quotes may hold line ends. -/
def literalLength (quote : Char) : List Char → Option Nat
  | [] => none
  | '\\' :: [] => none
  | '\\' :: '\r' :: '\n' :: r => (literalLength quote r).map (· + 3)
  | '\\' :: _ :: r => (literalLength quote r).map (· + 2)
  | c :: r =>
    if c = quote then some 1
    else if isLineEnd c && quote != '`' then none
    else (literalLength quote r).map (· + 1)

/-- The number of characters of a pattern after its opening slash, flags included; `inClass` tells
whether they stand between brackets, where a slash does not end it. -/
def patternLength (inClass : Bool) : List Char → Option Nat
  | [] => none
  | '\\' :: c :: r => if isLineEnd c then none else (patternLength inClass r).map (· + 2)
  | c :: r =>
    if isLineEnd c then none
    else if inClass then (patternLength (c != ']') r).map (· + 1)
    else if c = '/' then some ((r.takeWhile Char.isLower).length + 1)
    else (patternLength (c == '[') r).map (· + 1)

/-- What may be left out at `c` before `r`: how many further characters it takes, and whether it is
a line end. -/
def gapLength (c : Char) (r : List Char) : Option (Nat × Bool) :=
  if isSpace c then some (0, isLineEnd c)
  else if c = '/' then
    match r with
    | '/' :: r => some ((r.takeWhile (!isLineEnd ·)).length + 1, false)
    | '*' :: r => (blockLength r).map fun n => (n + 1, false)
    | _ => none
  else none

/-- The first character after blanks and comments. The bound is the number of characters. -/
def nextKept : Nat → List Char → Option Char
  | 0, _ | _, [] => none
  | bound + 1, c :: r =>
    match gapLength c r with
    | some (n, _) => nextKept bound (r.drop n)
    | none => some c

/-- Whether the kept characters, last first, end with the word `return`. -/
def endsWithReturn (kept : List Char) : Bool :=
  "nruter".toList.isPrefixOf kept && !(kept[6]?.any isWordPart)

/-- The number of characters of the pattern that begins with a slash before `r`; `kept` is what
stands before it, last first. After a closing parenthesis a pattern has to be asked for a member. -/
def patternHere (kept r : List Char) : Option Nat :=
  match kept.head? with
  | none => length
  | some c =>
    if "(,=:[!&|?\x7b\x7d;\r\n+*-".toList.contains c || endsWithReturn kept then length
    else if c = ')' then length.filter fun n => nextKept r.length (r.drop n) = some '.'
    else none
where
  length : Option Nat :=
    if r.head? = some '*' ∨ r.head? = some '/' then none else patternLength false r

/-- The kept characters, last first, when `kept` are those so far and the rest is read. `gap` tells
whether something was left out since, and whether that held a line end; `pattern` whether the last
kept character ends a pattern. -/
def keepFrom (kept : List Char) (gap : Option Bool) (pattern : Bool) : List Char → List Char
  | [] => kept
  | c :: r =>
    match gapLength c r with
    | some (n, lineEnd) => keepFrom kept (some (gap.getD false || lineEnd)) pattern (r.drop n)
    | none =>
      match if c = '/' then patternHere kept r else none with
      | some n =>
        let between := if gap = some true && endsWithReturn kept then ['\n'] else []
        keepFrom ((r.take n).reverse ++ '/' :: between ++ kept) none true (r.drop n)
      | none =>
        let between :=
          match kept.head?, gap with
          | some left, some lineEnd => separator left c lineEnd pattern
          | _, _ => []
        let literal :=
          if c = '"' ∨ c = '\'' ∨ c = '`' then (literalLength c r).getD 0 else 0
        keepFrom ((r.take literal).reverse ++ c :: between ++ kept) none false (r.drop literal)
termination_by s => s.length
decreasing_by all_goals simp only [List.length_drop, List.length_cons]; omega

end Compact

/-- The script without blanks and comments that do not matter. -/
def compact (source : String) : String :=
  String.ofList (Compact.keepFrom [] none false source.toList).reverse

end Folio.Script
