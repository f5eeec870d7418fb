import Folio.Text.CharacterName
import Folio.Text.Printable

/-!
# String literals

A literal stands between two quotes of one kind. Inside, a backslash begins an escape: a letter for
a control character, a number in octal or in two, four or eight hexadecimal digits, the name of a
character, or a quoted character. Other backslashes stand for themselves.
-/

namespace Folio.Text

/-- What is wrong with an escape. -/
inductive EscapeFlaw
  /-- A number with fewer digits than its letter asks for. -/
  | cutShort (letter : Char) (digits : Nat)
  /-- A number above those of all characters. -/
  | tooLarge
  | unfinishedName
  | unknownName
  /-- Half of a character that is written in two parts. -/
  | halfCharacter
  deriving DecidableEq, Repr

/-- A bad escape: it begins at a place of the literal's body and is so many characters long. -/
structure BadEscape where
  flaw : EscapeFlaw
  start : Nat
  length : Nat
  deriving DecidableEq, Repr

def EscapeFlaw.message : EscapeFlaw → String
  | cutShort letter digits =>
    "truncated \\" ++ String.ofList (letter :: List.replicate digits 'X') ++ " escape"
  | tooLarge => "illegal Unicode character"
  | unfinishedName => "malformed \\N character escape"
  | unknownName => "unknown Unicode character name"
  | halfCharacter => "half of a character"

def isOctalDigit (c : Char) : Bool :=
  '0' ≤ c && c ≤ '7'

def octalValue (digits : List Char) : Nat :=
  digits.foldl (fun n c => n * 8 + (c.toNat - 48)) 0

/-- The character that a backslash and a letter stand for. -/
def simpleEscape (c : Char) : Option Char :=
  if c = 'n' then some '\n' else if c = 't' then some '\t' else if c = 'r' then some '\r'
  else if c = 'a' then some '\x07' else if c = 'b' then some '\x08'
  else if c = 'f' then some '\x0c' else if c = 'v' then some '\x0b'
  else if c = '\\' ∨ c = '\'' ∨ c = '"' then some c else none

/-- How many hexadecimal digits an escape has. -/
def numberedEscape (c : Char) : Nat :=
  if c = 'x' then 2 else if c = 'u' then 4 else if c = 'U' then 8 else 0

/-- The character of a number. -/
def charNumbered (n : Nat) : Except EscapeFlaw Char :=
  if 0x10FFFF < n then .error .tooLarge
  else if 0xD800 ≤ n ∧ n ≤ 0xDFFF then .error .halfCharacter
  else .ok (Char.ofNat n)

/-- The length of a name between braces, with these, as far as it goes. -/
def bracedLength (s : List Char) : Nat :=
  if s.head? = some '{' then min s.length ((s.takeWhile (· ≠ '}')).length + 1) else 0

/-- The character whose name stands between braces. -/
def braced (s : List Char) : Except EscapeFlaw Char :=
  let name := (s.drop 1).takeWhile (· ≠ '}')
  if s.head? ≠ some '{' ∨ name = [] ∨ s.length < name.length + 2 then .error .unfinishedName
  else (characterNamed name).elim (.error .unknownName) charNumbered

/-- What a backslash and the characters behind it stand for, and how many of these belong to it. -/
def escapeValue (c : Char) (r : List Char) : Except EscapeFlaw (List Char) × Nat :=
  let width := numberedEscape c
  match simpleEscape c with
  | some d => (.ok [d], 1)
  | none =>
    if c = '\n' then (.ok [], 1)
    else if isOctalDigit c then
      let digits := c :: (r.take 2).takeWhile isOctalDigit
      (.ok [Char.ofNat (octalValue digits)], digits.length)
    else if width ≠ 0 then
      let digits := (r.take width).takeWhile isHexDigit
      let value := if digits.length < width then .error (.cutShort c width)
        else charNumbered (hexValue digits)
      (value.map ([·]), digits.length + 1)
    else if c = 'N' then ((braced r).map ([·]), bracedLength r + 1)
    else (.ok ['\\', c], 1)

/-- The value of the end of a string literal's body, in front of which `n` characters stand. -/
def literalValueFrom (n : Nat) : List Char → Except BadEscape (List Char)
  | [] => .ok []
  | '\\' :: c :: r =>
    match escapeValue c r with
    | (.ok value, m) => (literalValueFrom (n + m + 1) (r.drop (m - 1))).map (value ++ ·)
    | (.error flaw, m) => .error ⟨flaw, n, m + 1⟩
  | c :: r => (literalValueFrom (n + 1) r).map (c :: ·)
termination_by s => s.length
decreasing_by all_goals simp only [List.length_drop, List.length_cons]; omega

/-- The value of a string literal's body. -/
def literalValue (body : List Char) : Except BadEscape (List Char) :=
  literalValueFrom 0 body

/-- The characters that write a character in ASCII. -/
def spelled (c : Char) : List Char :=
  if c.toNat < 0x80 then [c] else numbered c.toNat

/-- The value of a string literal's body in which a backslash does not quote a character above
ASCII but its spelling. -/
def spelledValue (body : List Char) : Except BadEscape (List Char) :=
  literalValue (body.flatMap spelled)

/-- The length of a string literal after its opening quote, with the closing one. -/
def literalLength (quote : Char) : List Char → Option Nat
  | [] => none
  | '\\' :: [] => none
  | '\\' :: _ :: r => (literalLength quote r).map (· + 2)
  | c :: r => if c = quote then some 1 else (literalLength quote r).map (· + 1)

end Folio.Text
