import Folio.Configuration.Problem
import Folio.Scalar
import Folio.Text.Number

/-!
# Tokens of a configuration

The text of a configuration is cut into names, values and symbols; the end of a line is a token
where no bracket is open and something stands on the line. A line that says something begins at
its very start. What cannot be read is the last token.
-/

namespace Folio.Configuration

open Text

inductive TokenKind
  /-- A name in its normal form. -/
  | name (s : String)
  /-- A word that cannot be a name. -/
  | word (s : String)
  /-- A number; `none` for one that is no scalar. -/
  | number (v : Option Scalar)
  /-- A string; `none` for one of bytes. -/
  | string (s : Option String)
  | symbol (s : String)
  | lineEnd
  | finish
  /-- A string or a number that has no value, or blanks that must not begin a line. -/
  | faulty (p : ConfigurationProblem)
  /-- What is no token; nothing is read behind it. -/
  | broken (p : ConfigurationProblem)
  deriving DecidableEq, Repr

structure Token where
  kind : TokenKind
  line : Nat
  deriving DecidableEq, Repr

/-! ## Words -/

/-- The words that are no names. -/
def reservedWords : List String :=
  ["False", "None", "True", "and", "as", "assert", "async", "await", "break", "class", "continue",
    "def", "del", "elif", "else", "except", "finally", "for", "from", "global", "if", "import",
    "in", "is", "lambda", "nonlocal", "not", "or", "pass", "raise", "return", "try", "while",
    "with", "yield"]

def isWordChar (c : Char) : Bool :=
  128 ≤ c.toNat || isAsciiLetter c || isAsciiDigit c || c == '_'

/-- A word or a name. -/
def wordKind (line : Nat) (s : List Char) : TokenKind :=
  let word := String.ofList s
  if reservedWords.contains word then .word word
  else if isIdentifier s then .name (normalName word)
  else
    .broken (.strayCharacter
      ((s.find? fun c => !continuesIdentifier c).getD (s.headD ' ')) line)

/-! ## Numbers -/

/-- The length of digits that begin a number. -/
def digitsLength (s : List Char) : Nat :=
  if s.head?.any isAsciiDigit then groupedLength isAsciiDigit s else 0

/-- The kind of a number, once it is known that nothing else begins right behind it. -/
def endedKind (base : String) (line : Nat) (rest : List Char) (kind : TokenKind) : TokenKind :=
  match rest with
  | [] => kind
  | c :: _ =>
    if isAsciiDigit c && base ≠ "decimal" then .broken (.badDigit c base line)
    else if isWordChar c then .broken (.badNumber base line)
    else kind

/-- A whole number in decimal digits. -/
def decimalKind (line : Nat) (written : List Char) : TokenKind :=
  let digits := withoutUnderscores written
  if digits.head? = some '0' then
    if digits.all (· == '0') then .number (some (.integer 0)) else .broken (.leadingZeros line)
  else if maxDigits < digits.length then .faulty (.tooManyDigits digits.length line)
  else .number (some (.integer (decimalValue digits)))

/-- A number with a point or an exponent. -/
def realKind (whole places exponent : List Char) : TokenKind :=
  let places := withoutUnderscores (places.drop 1)
  let (sign, power) := splitSign (withoutUnderscores (exponent.drop 1))
  .number (some (.real (.ofDecimal (decimalValue (withoutUnderscores whole ++ places))
    (sign * decimalValue power - places.length))))

/-- A number in another base, behind its letter, and its length. -/
def radixKind (base : String) (radix : Nat) (isDigit : Char → Bool) (line : Nat) (s : List Char) :
    TokenKind × Nat :=
  let n := groupedLength isDigit s
  let value := (withoutUnderscores (s.take n)).foldl (fun m c => m * radix + hexValue [c]) 0
  if n = 0 ∧ !s.head?.any isAsciiDigit then (.broken (.badNumber base line), 1)
  else (endedKind base line (s.drop n) (.number (some (.integer value))), n)

/-- A number in decimal digits and its length. -/
def plainNumber (line : Nat) (s : List Char) : TokenKind × Nat :=
  let whole := digitsLength s
  let rest := s.drop whole
  let places := if rest.head? = some '.' then digitsLength (rest.drop 1) + 1 else 0
  let rest := rest.drop places
  let mark := if rest.head?.any fun c => c == 'e' || c == 'E' then 1 else 0
  let sign := if (rest.drop mark).head?.any fun c => c == '-' || c == '+' then mark else 0
  let power := digitsLength (rest.drop (mark + sign))
  let exponent := if mark = 0 ∨ power = 0 then 0 else mark + sign + power
  let rest := rest.drop exponent
  let n := whole + places + exponent
  if rest.head?.any fun c => c == 'j' || c == 'J' then
    (endedKind "imaginary" line (rest.drop 1) (.number none), n + 1)
  else
    let written := s.drop whole
    let kind := if places + exponent = 0 then decimalKind line (s.take whole)
      else realKind (s.take whole) (written.take places) ((written.drop places).take exponent)
    (endedKind "decimal" line rest kind, n)

/-- The number that a text begins with, and its length. -/
def numberKind (line : Nat) (s : List Char) : TokenKind × Nat :=
  let radixed (base : String) (radix : Nat) (isDigit : Char → Bool) (r : List Char) :=
    let (kind, n) := radixKind base radix isDigit line r
    (kind, n + 2)
  match s with
  | '0' :: c :: r =>
    if c = 'x' ∨ c = 'X' then radixed "hexadecimal" 16 isHexDigit r
    else if c = 'o' ∨ c = 'O' then radixed "octal" 8 isOctalDigit r
    else if c = 'b' ∨ c = 'B' then radixed "binary" 2 (fun c => c == '0' || c == '1') r
    else plainNumber line s
  | _ => plainNumber line s

/-! ## Strings -/

/-- The letters that may stand before a string, in small letters. -/
def stringMarks : List String := ["", "r", "u", "b", "f", "br", "rb", "fr", "rf"]

/-- The length of the letters before the string that a text begins with. -/
def markLength (s : List Char) : Option Nat :=
  let mark := (s.take 2).takeWhile isAsciiLetter
  let next := (s.drop mark.length).head?
  let isMark := stringMarks.contains (String.ofList (mark.map fun c =>
    if 'A' ≤ c ∧ c ≤ 'Z' then Char.ofNat (c.toNat + 32) else c))
  if isMark && next.any (fun c => c == '"' || c == '\'') then some mark.length else none

/-- The length of the body of a string that ends in three quotes. -/
def tripleLength (quote : Char) : List Char → Option Nat
  | [] => none
  | ['\\'] => none
  | '\\' :: _ :: r => (tripleLength quote r).map (· + 2)
  | c :: r =>
    if c = quote ∧ r.take 2 = [quote, quote] then some 0
    else (tripleLength quote r).map (· + 1)

/-- The length of the body of a string that ends in one quote and on its line. -/
def singleLength (quote : Char) : List Char → Option Nat
  | [] => none
  | ['\\'] => none
  | '\\' :: _ :: r => (singleLength quote r).map (· + 2)
  | c :: r =>
    if c = quote then some 0
    else if c = '\n' then none
    else (singleLength quote r).map (· + 1)

/-- The string of a body behind some letters. -/
def stringKind (mark body : List Char) (line : Nat) : TokenKind :=
  let has (c d : Char) : Bool := mark.contains c || mark.contains d
  if has 'b' 'B' then
    if body.all (·.toNat < 128) then .string none else .faulty (.foreignByte line)
  else if has 'r' 'R' then .string (some (String.ofList body))
  else
    match literalValue body with
    | .ok value => .string (some (String.ofList value))
    | .error e => .faulty (.badEscape e line)

/-- The string behind some letters, and its length with these. -/
def readString (mark : List Char) (line : Nat) (s : List Char) : TokenKind × Nat :=
  match s with
  | [] => (.broken (.badLine line), 0)
  | quote :: r =>
    if r.take 2 = [quote, quote] then
      let s := r.drop 2
      match tripleLength quote s with
      | some n => (stringKind mark (s.take n) line, mark.length + n + 6)
      | none => (.broken (.openText line (line + (r.count '\n') - 1)), 0)
    else
      match singleLength quote r with
      | some n => (stringKind mark (r.take n) line, mark.length + n + 2)
      | none => (.broken (.openString line), 0)

/-! ## Scanning -/

def symbols : List String :=
  ["**=", "//=", ">>=", "<<=", "...", "**", "//", ">>", "<<", "==", "!=", ">=", "<=", "->", "+=",
    "-=", "*=", "/=", "%=", "&=", "|=", "^=", "@=", ":=", "+", "-", "*", "/", "%", "@", "&", "|",
    "^", "~", "<", ">", "(", ")", "[", "]", "\x7b", "\x7d", ",", ":", ".", ";", "=", "$", "?", "!",
    "\x60"]

/-- The closing bracket of an opening one. -/
def closerOf? (c : Char) : Option Char :=
  if c = '(' then some ')' else if c = '[' then some ']' else if c = '{' then some '}' else none

/-- The open brackets, innermost first, each with its line. -/
abbrev Brackets := List (Char × Nat)

/-- The open brackets after a symbol. -/
def bracketsAfter (c : Char) (line : Nat) (brackets : Brackets) :
    Except ConfigurationProblem Brackets :=
  if (closerOf? c).isSome then .ok ((c, line) :: brackets)
  else if c = ')' ∨ c = ']' ∨ c = '}' then
    match brackets with
    | [] => .error (.strayCloser c line)
    | (opener, _) :: rest =>
      if closerOf? opener = some c then .ok rest else .error (.otherCloser c opener line)
  else .ok brackets

/-- The column behind some blanks at the start of a line. -/
def indentation (column : Nat) : List Char → Nat
  | ' ' :: r => indentation (column + 1) r
  | '\t' :: r => indentation ((column / 8 + 1) * 8) r
  | '\x0c' :: r => indentation 0 r
  | _ => column

def isSpacing (c : Char) : Bool :=
  c == ' ' || c == '\t' || c == '\x0c'

/-- Where the scanner is: on a line, perhaps at its start, inside some brackets, and whether the
line says something. -/
structure Spot where
  line : Nat
  isStart : Bool
  isUsed : Bool
  brackets : Brackets
  deriving DecidableEq, Repr

/-- What begins on a line and is no spacing, with its length. -/
def readKind (spot : Spot) (s : List Char) : TokenKind × Nat :=
  match s with
  | [] => (.broken (.badLine spot.line), 0)
  | c :: r =>
    match markLength s with
    | some n => readString (s.take n) spot.line (s.drop n)
    | none =>
      if isAsciiDigit c || (c == '.' && r.head?.any isAsciiDigit) then numberKind spot.line s
      else if isWordChar c then
        let word := s.takeWhile isWordChar
        (wordKind spot.line word, word.length)
      else
        match symbols.find? fun symbol => symbol.toList.isPrefixOf s with
        | some symbol => (.symbol symbol, symbol.length)
        | none => (.broken (.strayCharacter c spot.line), 0)

/-- What the scanner does next: some tokens, and how it goes on, behind so many characters. -/
structure Step where
  tokens : List Token
  next : Option (Spot × Nat)
  deriving DecidableEq, Repr

def Step.stop (p : ConfigurationProblem) (line : Nat) : Step :=
  ⟨[⟨.broken p, line⟩], none⟩

/-- The step at the end of a line. -/
def lineEndStep (spot : Spot) (n : Nat) : Step :=
  let isEnd := spot.isUsed && spot.brackets.isEmpty
  ⟨if isEnd then [⟨.lineEnd, spot.line⟩] else [],
    some ({ spot with
      line := spot.line + 1, isStart := spot.brackets.isEmpty,
      isUsed := spot.isUsed && !isEnd }, n)⟩

/-- The step of a token. -/
def tokenStep (spot : Spot) (s : List Char) : Step :=
  let (kind, n) := readKind spot s
  let passed := s.take n
  let spot := { spot with isStart := false, isUsed := true }
  let after := { spot with line := spot.line + passed.count '\n' }
  match kind, passed with
  | .broken p, _ => .stop p spot.line
  | .symbol _, c :: _ =>
    match bracketsAfter c spot.line spot.brackets with
    | .ok brackets => ⟨[⟨kind, spot.line⟩], some ({ after with brackets }, n)⟩
    | .error p => .stop p spot.line
  | kind, _ => ⟨[⟨kind, spot.line⟩], some (after, n)⟩

/-- The step at some characters. -/
def step (spot : Spot) (s : List Char) : Step :=
  let blanks := (s.takeWhile isSpacing).length
  let rest := s.drop blanks
  match rest with
  | [] => ⟨[], some (spot, blanks)⟩
  | '#' :: r => ⟨[], some (spot, blanks + 1 + (r.takeWhile (· ≠ '\n')).length)⟩
  | '\n' :: _ => lineEndStep spot (blanks + 1)
  | '\\' :: '\n' :: r =>
    if r.isEmpty && spot.isUsed then .stop (.unfinished spot.line) spot.line
    else ⟨[], some ({ spot with line := spot.line + 1 }, blanks + 2)⟩
  | '\\' :: _ => .stop (.afterBackslash spot.line) spot.line
  | rest =>
    let isIndented := spot.isStart && !spot.isUsed && indentation 0 s ≠ 0
    let indent : List Token := if isIndented then [⟨.faulty (.indented spot.line), spot.line⟩] else []
    let taken := tokenStep spot rest
    ⟨indent ++ taken.tokens, taken.next.map fun (spot, n) => (spot, n + blanks)⟩

/-- The tokens of the characters from a place on. -/
def scanFrom (spot : Spot) : List Char → List Token
  | [] =>
    match spot.brackets with
    | (opener, line) :: _ => [⟨.broken (.openBracket opener line), line⟩]
    | [] => [⟨.finish, spot.line⟩]
  | c :: r =>
    let taken := step spot (c :: r)
    taken.tokens ++
      match taken.next with
      | none => []
      | some (spot, n) => scanFrom spot (r.drop (n - 1))
termination_by s => s.length
decreasing_by simp only [List.length_drop, List.length_cons]; omega

/-- The tokens of a text, whose last line need not end. -/
def scan (s : List Char) : List Token :=
  scanFrom ⟨1, true, false, []⟩ (if s.getLast?.all (· == '\n') then s else s ++ ['\n'])

end Folio.Configuration
