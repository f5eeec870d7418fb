import Folio.Style.Report
import Folio.Text.Letter

/-!
# Words of stylesheets

What a stylesheet is written with: blanks and comments, names, numbers with units, quoted strings.
Each function answers how many characters at the beginning of a text belong to a word, and zero or
`none` if there is none.
-/

namespace Folio.Style

open Text

def isSpace (c : Char) : Bool :=
  c == ' ' || ('\t' ≤ c && c ≤ '\r')

def begins (beginning : String) (s : List Char) : Bool :=
  beginning.toList.isPrefixOf s

/-- The length of as many words as a text begins with. The bound is the length of the text. -/
def manyLength (one : List Char → Nat) : Nat → List Char → Nat
  | 0, _ => 0
  | bound + 1, s =>
    let n := one s
    if n = 0 then 0 else n + manyLength one bound (s.drop n)

def many (one : List Char → Nat) (s : List Char) : Nat :=
  manyLength one s.length s

/-! ## Blanks and comments -/

/-- The length of what is left of a comment after its opening mark. -/
def commentEnd : List Char → Option Nat
  | '*' :: '/' :: _ => some 2
  | _ :: r => (commentEnd r).map (· + 1)
  | [] => none

/-- The length of a comment between marks. -/
def commentLength : List Char → Nat
  | '/' :: '*' :: r => ((commentEnd r).map (· + 2)).getD 0
  | _ => 0

/-- The length of a blank or of a comment up to the end of its line. -/
def blankLength : List Char → Nat
  | '/' :: '/' :: r => (r.takeWhile fun c => c != '\n' && c != '\r').length + 2
  | c :: _ => if isSpace c then 1 else 0
  | [] => 0

def gapLength (s : List Char) : Nat :=
  let n := blankLength s
  if n = 0 then commentLength s else n

/-- A text without the blanks at its beginning. -/
def afterBlanks (s : List Char) : List Char :=
  s.drop (many blankLength s)

/-- A text without the blanks and comments at its beginning. -/
def afterGaps (s : List Char) : List Char :=
  s.drop (many gapLength s)

/-! ## Names -/

/-- The length of an escape after its backslash. -/
def escapeEnd (s : List Char) : Nat :=
  let digits := ((s.take 3).takeWhile isHexDigit).length
  let n := if digits = 0 then min 1 s.length else digits
  if n != 0 && (s.drop n).head? = some ' ' then n + 1 else n

/-- The length of a character of a name. Digits count only further inside. -/
def nameCharLength (inside : Bool) : List Char → Nat
  | '\\' :: r => let n := escapeEnd r; if n = 0 then 0 else n + 1
  | c :: _ =>
    if isAsciiLetter c || c == '-' || c == '_' || 128 ≤ c.toNat || inside && isAsciiDigit c then 1
    else 0
  | [] => 0

/-- The length of a name. -/
def nameLength (s : List Char) : Nat :=
  let dashes := (s.takeWhile (· == '-')).length
  let first := nameCharLength false (s.drop dashes)
  if first = 0 then 0
  else dashes + first + many (nameCharLength true) (s.drop (dashes + first))

/-- Whether a text begins with a word that goes no further. -/
def beginsWord (word : String) (s : List Char) : Bool :=
  match after? word s with
  | some (c :: _) => !(isAsciiLetter c || isAsciiDigit c || c == '-' || c == '#')
  | some [] => true
  | none => false

/-- The length of a mark such as `!important`, blanks between its parts included. -/
def markLength (word : String) : List Char → Nat
  | '!' :: r =>
    let gap := many blankLength r
    if beginsWord word (r.drop gap) then gap + word.length + 1 else 0
  | _ => 0

/-- The length of a variable. -/
def variableLength : List Char → Nat
  | '$' :: r => let n := nameLength r; if n = 0 then 0 else n + 1
  | _ => 0

/-- A name in the one form of all that are written with dashes or underscores in its place. -/
def dashed (name : List Char) : String :=
  String.ofList (name.map fun c => if c = '_' then '-' else c)

/-! ## Numbers -/

def digitsLength (s : List Char) : Nat :=
  (s.takeWhile isAsciiDigit).length

/-- The length of a number without sign and exponent. -/
def unsignedLength (s : List Char) : Nat :=
  let whole := digitsLength s
  match s.drop whole with
  | '.' :: r => let places := digitsLength r; if places = 0 then whole else whole + 1 + places
  | _ => whole

/-- The length of a sign. -/
def signLength : List Char → Nat
  | '+' :: _ | '-' :: _ => 1
  | _ => 0

/-- The length of an exponent. -/
def exponentLength : List Char → Nat
  | 'e' :: r =>
    let sign := signLength r
    let n := unsignedLength (r.drop sign)
    if n = 0 then 0 else 1 + sign + n
  | _ => 0

/-- The length of a number. -/
def numberLength (s : List Char) : Nat :=
  let sign := signLength s
  let n := unsignedLength (s.drop sign)
  if n = 0 then 0 else sign + n + exponentLength (s.drop (sign + n))

/-- The length of a letter of a unit. -/
def unitCharLength (inside : Bool) (s : List Char) : Nat :=
  if s.head? = some '-' then 0 else nameCharLength inside s

/-- The length of a piece further inside a unit, where dashes have to lead to a letter. -/
def unitPieceLength (s : List Char) : Nat :=
  let n := unitCharLength true s
  let dashes := (s.takeWhile (· == '-')).length
  let letter := unitCharLength false (s.drop dashes)
  if n != 0 then n else if dashes = 0 ∨ letter = 0 then 0 else dashes + letter

/-- The length of a simple unit. -/
def simpleUnitLength (s : List Char) : Nat :=
  let dash := if s.head? = some '-' then 1 else 0
  let first := unitCharLength false (s.drop dash)
  if first = 0 then 0 else dash + first + many unitPieceLength (s.drop (dash + first))

/-- The length of a factor of a unit after the first. -/
def furtherUnitLength : List Char → Nat
  | '*' :: r => let n := simpleUnitLength r; if n = 0 then 0 else n + 1
  | _ => 0

/-- The length of simple units with stars between them. -/
def unitProductLength (s : List Char) : Nat :=
  let n := simpleUnitLength s
  if n = 0 then 0 else n + many furtherUnitLength (s.drop n)

/-- The length of a unit. -/
def unitLength (s : List Char) : Nat :=
  let n := unitProductLength s
  match s.drop n with
  | '/' :: r =>
    let m := unitProductLength r
    if n = 0 ∨ m = 0 ∨ begins "calc(" r then n else n + 1 + m
  | _ => n

/-! ## Strings and colors -/

/-- A text without the backslashes at its line ends. -/
def joinLines : List Char → List Char
  | '\\' :: '\r' :: '\n' :: r | '\\' :: '\n' :: r => joinLines r
  | '\\' :: c :: r => '\\' :: c :: joinLines r
  | c :: r => c :: joinLines r
  | [] => []

/-- The length of what is left of a string after its opening quote. -/
def closingLength (quote : Char) : List Char → Option Nat
  | [] => none
  | '\\' :: _ :: r => (closingLength quote r).map (· + 2)
  | c :: r => if c = quote then some 1 else (closingLength quote r).map (· + 1)

/-- The length of a quoted string. -/
def quotedLength : List Char → Nat
  | c :: r => if c = '"' ∨ c = '\'' then ((closingLength c r).map (· + 1)).getD 0 else 0
  | [] => 0

/-- The length of a color in hexadecimal digits, which are as many as one of some counts. -/
def hexLength (counts : List Nat) : List Char → Nat
  | '#' :: r =>
    let n := (r.takeWhile isHexDigit).length
    if counts.contains n then n + 1 else 0
  | _ => 0

end Folio.Style
