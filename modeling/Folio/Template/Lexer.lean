import Folio.Template.Token
import Folio.Text.Blank
import Folio.Text.Lines
import Folio.Text.Literal
import Folio.Text.Number

/-!
# Reading template tokens

`scan` cuts a template into tokens. A hyphen behind the beginning of a mark takes the blanks before
the mark away, one before its end the blanks behind it. Text between the tags `raw` and `endraw` is
text whatever it looks like. Inside a mark its end counts only where no bracket is open.
-/

namespace Folio.Template

open Text

/-- The text without one line feed at its end. -/
def dropFinalBreak (s : List Char) : List Char :=
  if s.getLast? = some '\n' then s.dropLast else s

def countBreaks (s : List Char) : Nat :=
  s.count '\n'

def blankLength (s : List Char) : Nat :=
  (s.takeWhile isBlank).length

/-! ## Marks -/

/-- The length of plain text, up to a mark. -/
def textLength : List Char → Nat
  | [] => 0
  | '{' :: c :: r => if c = '%' ∨ c = '{' ∨ c = '#' then 0 else textLength (c :: r) + 1
  | _ :: r => textLength r + 1

/-- The length of the sign behind the beginning of a mark. -/
def signLength : List Char → Nat
  | '-' :: _ | '+' :: _ => 1
  | _ => 0

/-- The length of the end of a tag, with the blanks that it takes away. -/
def tagEndLength : List Char → Option Nat
  | '%' :: '}' :: _ => some 2
  | '+' :: '%' :: '}' :: _ => some 3
  | '-' :: '%' :: '}' :: r => some (3 + blankLength r)
  | _ => none

/-- The length of the end of a print, with the blanks that it takes away. -/
def printEndLength : List Char → Option Nat
  | '}' :: '}' :: _ => some 2
  | '-' :: '}' :: '}' :: r => some (3 + blankLength r)
  | _ => none

/-- The length of a comment after its opening mark, with the closing one and the blanks that it
takes away. -/
def commentLength : List Char → Option Nat
  | '#' :: '}' :: _ => some 2
  | '-' :: '#' :: '}' :: r => some (3 + blankLength r)
  | _ :: r => (commentLength r).map (· + 1)
  | [] => none

/-- The length of a tag that holds one word alone, behind its opening mark. `endLength` is that of
the tag's end. -/
def wordTagLength (word : String) (endLength : List Char → Option Nat) (s : List Char) :
    Option Nat :=
  let before := signLength s + blankLength (s.drop (signLength s))
  let s := s.drop before
  if word.toList.isPrefixOf s then
    let n := word.length + blankLength (s.drop word.length)
    (endLength (s.drop n)).map (before + n + ·)
  else none

/-- The length of the tag that begins raw text, behind its opening mark. A plus sign does not end
it. -/
def rawLength : List Char → Option Nat :=
  wordTagLength "raw" fun s => if s.head? = some '+' then none else tagEndLength s

/-- The length of raw text, and that of the tag that ends it. -/
def rawTextLength : List Char → Option (Nat × Nat)
  | [] => none
  | c :: r =>
    let here :=
      if c = '{' ∧ r.head? = some '%' then wordTagLength "endraw" tagEndLength (r.drop 1) else none
    match here with
    | some n => some (0, n + 2)
    | none => (rawTextLength r).map fun (n, m) => (n + 1, m)

/-- The token of some text before a mark, which may take the blanks at its end away. -/
def textToken (text : List Char) (sign : Option Char) (line : Nat) : List Token :=
  let text := if sign = some '-' then trimEnd isBlank text else text
  if text.isEmpty then [] else [⟨.text (String.ofList text), line⟩]

/-! ## Numbers -/

def isDecimal (c : Char) : Bool :=
  (digitValue? c).isSome

/-- The length of a number in decimal digits. -/
def decimalLength (s : List Char) : Nat :=
  if s.head?.any isDecimal then groupedLength isDecimal s else 0

/-- The length of the exponent of a number. -/
def exponentLength : List Char → Nat
  | c :: r =>
    if c = 'e' ∨ c = 'E' then
      let sign := signLength r
      let n := decimalLength (r.drop sign)
      if n = 0 then 0 else n + sign + 1
    else 0
  | [] => 0

/-- The lengths of the parts of a number with a point or an exponent. -/
def realLengths (s : List Char) : Option (Nat × Nat × Nat) :=
  let whole := decimalLength s
  let rest := s.drop whole
  let places := if rest.head? = some '.' then decimalLength (rest.drop 1) else 0
  let places := if places = 0 then 0 else places + 1
  let exponent := exponentLength (rest.drop places)
  if whole = 0 ∨ places + exponent = 0 then none else some (whole, places, exponent)

/-- A number with a point or an exponent, made of its parts. -/
def realKind (whole places exponent : List Char) : TokenKind :=
  let places := withoutUnderscores (places.drop 1)
  let digits := withoutUnderscores whole ++ places
  let (sign, power) := splitSign (withoutUnderscores (exponent.drop 1))
  if (digits ++ power).all isAsciiDigit then
    .real (.ofDecimal (decimalValue digits) (sign * decimalValue power - places.length))
  else .broken (.crash .foreignDigits)

/-- A whole number in some base. -/
def integerKind (base : Nat) (written : List Char) : TokenKind :=
  let digits := withoutUnderscores written
  let value (c : Char) : Nat := if isHexDigit c then hexValue [c] else (digitValue? c).getD 0
  if base = 10 ∧ maxDigits < digits.length then
    .broken (.anywhere (.tooManyDigits (some digits.length)))
  else .integer (digits.foldl (fun n c => n * base + value c) 0)

/-- A number in another base: its letter, base and digits. -/
def radixKind (c : Char) (r : List Char) : Option (TokenKind × Nat) :=
  let kind (base : Nat) (isDigit : Char → Bool) : Option (TokenKind × Nat) :=
    let n := groupedLength isDigit r
    if n = 0 then none else some (integerKind base (r.take n), n + 2)
  if c = 'b' ∨ c = 'B' then kind 2 fun c => c == '0' || c == '1'
  else if c = 'o' ∨ c = 'O' then kind 8 isOctalDigit
  else if c = 'x' ∨ c = 'X' then kind 16 fun c => isHexDigit c || isDecimal c
  else none

/-- The number that a text begins with, and its length. A point right before a number makes it a
whole one. -/
def numberKind (afterPoint : Bool) (s : List Char) : Option (TokenKind × Nat) :=
  match if afterPoint then none else realLengths s with
  | some (whole, places, exponent) =>
    let rest := s.drop whole
    some (realKind (s.take whole) (rest.take places) ((rest.drop places).take exponent),
      whole + places + exponent)
  | none =>
    match s with
    | '0' :: r =>
      let zeros := groupedLength (· == '0') r
      let other := match r with
        | c :: r => radixKind c r
        | [] => none
      some (other.getD (integerKind 10 ('0' :: r.take zeros), zeros + 1))
    | c :: r =>
      if isAsciiDigit c then
        let n := groupedLength isDecimal r
        some (integerKind 10 (c :: r.take n), n + 1)
      else none
    | [] => none

/-! ## Inside marks -/

inductive Zone
  | print
  | tag
  deriving DecidableEq, Repr

def Zone.endLength : Zone → List Char → Option Nat
  | print => printEndLength
  | tag => tagEndLength

def Zone.endKind : Zone → TokenKind
  | print => .printEnd
  | tag => .tagEnd

def symbols : List String :=
  ["**", "//", "==", "!=", ">=", "<=", "+", "-", "/", "*", "%", "~", "[", "]", "(", ")", ">", "<",
    "=", ".", ":", "|", ",", ";", "\x7b", "\x7d"]

def isNameChar (c : Char) : Bool :=
  isWord c || continuesIdentifier c

def nameKind (name : List Char) (unfit : Cause → TokenKind) : TokenKind :=
  if isIdentifier name then .name (String.ofList name) else unfit .unfitName

def stringKind (body : List Char) (unfit : Cause → TokenKind) : TokenKind :=
  match spelledValue body with
  | .ok value => .string (String.ofList value)
  | .error ⟨.halfCharacter, _, _⟩ => .broken (.crash .halfCharacter)
  | .error e => unfit (.reported e.flaw.message)

/-- What begins inside a mark on a line and its length; `none` for a stray character. -/
def insideKind (afterPoint : Bool) (line : Nat) (s : List Char) : Option (TokenKind × Nat) :=
  let unfit (cause : Cause) : TokenKind := .broken (.onLine cause line)
  match s with
  | [] => none
  | c :: r =>
    match numberKind afterPoint s with
    | some found => some found
    | none =>
      if isNameChar c then
        let name := s.takeWhile isNameChar
        some (nameKind name unfit, name.length)
      else
        let literal := if c = '"' ∨ c = '\'' then literalLength c r else none
        match literal with
        | some n => some (stringKind (r.take (n - 1)) unfit, n + 1)
        | none =>
          (symbols.find? fun symbol => symbol.toList.isPrefixOf s).map fun symbol =>
            (.symbol symbol, symbol.length)

/-- The brackets that are open after a symbol, innermost first; what is wrong if it closes none. -/
def bracketsAfter (symbol : String) (brackets : List String) : Except Cause (List String) :=
  if symbol = "(" then .ok (")" :: brackets)
  else if symbol = "[" then .ok ("]" :: brackets)
  else if symbol = "\x7b" then .ok ("\x7d" :: brackets)
  else if symbol = ")" ∨ symbol = "]" ∨ symbol = "\x7d" then
    match brackets with
    | [] => .error (.unexpectedToken symbol)
    | expected :: rest =>
      if expected = symbol then .ok rest else .error (.strayBracket symbol expected)
  else .ok brackets

/-! ## Scanning -/

/-- Where the scanner is: a line, and the number of characters before. -/
structure Spot where
  line : Nat
  position : Nat
  deriving DecidableEq, Repr

def Spot.advance (spot : Spot) (passed : List Char) : Spot :=
  ⟨spot.line + countBreaks passed, spot.position + passed.length⟩

/-- What the scanner does next: it reads plain text, or the inside of a mark. -/
inductive Mode
  | plain
  | inside (zone : Zone) (brackets : List String) (afterPoint : Bool)
  deriving DecidableEq, Repr

/-- Some tokens, how the scanner goes on and how many characters it has passed; it does not go on
after a token that could not be read. -/
structure Step where
  tokens : List Token
  next : Option (Mode × Nat)
  deriving DecidableEq, Repr

def Step.stop (tokens : List Token) : Step := ⟨tokens, none⟩

/-- The step of a mark whose beginning, with the character `d`, stands before `r`; `n` characters
stand before it. -/
def markStep (text : List Token) (line n : Nat) (d : Char) (r : List Char) : Step :=
  let sign := signLength r
  if d = '#' then
    match commentLength (r.drop sign) with
    | some m => ⟨text, some (.plain, n + 2 + sign + m)⟩
    | none =>
      let unclosed : Token := ⟨.broken (.onSomeLine .unclosedComment line), line⟩
      .stop (text ++ if (r.drop sign).isEmpty then [] else [unclosed])
  else if d = '%' then
    match rawLength r with
    | some m =>
      let line := line + countBreaks (r.take m)
      let inner := r.drop m
      match rawTextLength inner with
      | some (k, e) =>
        let raw := textToken (inner.take k) (inner.drop (k + 2)).head? line
        ⟨text ++ raw, some (.plain, n + 2 + m + k + e)⟩
      | none =>
        let unclosed : Token := ⟨.broken (.onSomeLine .unclosedRaw line), line⟩
        .stop (text ++ if inner.isEmpty then [] else [unclosed])
    | none => ⟨text ++ [⟨.tagBegin, line⟩], some (.inside .tag [] false, n + 2 + sign)⟩
  else ⟨text ++ [⟨.printBegin, line⟩], some (.inside .print [] false, n + 2 + sign)⟩

/-- The step of plain text and the mark behind it. -/
def plainStep (line : Nat) (s : List Char) : Step :=
  let n := textLength s
  let text := s.take n
  match s.drop n with
  | _ :: d :: r =>
    markStep (textToken text (r.head?) line) (line + countBreaks text) n d r
  | _ => .stop (textToken text none line)

/-- The step of what begins inside a mark. -/
def insideStep (zone : Zone) (brackets : List String) (afterPoint : Bool) (spot : Spot)
    (s : List Char) : Step :=
  match if brackets.isEmpty then zone.endLength s else none with
  | some n => ⟨[⟨zone.endKind, spot.line⟩], some (.plain, n)⟩
  | none =>
    let blanks := blankLength s
    if 0 < blanks then ⟨[], some (.inside zone brackets false, blanks)⟩
    else
      match insideKind afterPoint spot.line s, s with
      | some (.symbol symbol, n), _ =>
        match bracketsAfter symbol brackets with
        | .ok brackets =>
          ⟨[⟨.symbol symbol, spot.line⟩], some (.inside zone brackets (symbol == "."), n)⟩
        | .error cause => .stop [⟨.broken (.onLine cause spot.line), spot.line⟩]
      | some (.broken d, _), _ => .stop [⟨.broken d, spot.line⟩]
      | some (kind, n), _ => ⟨[⟨kind, spot.line⟩], some (.inside zone brackets false, n)⟩
      | none, c :: _ =>
        .stop [⟨.broken (.onLine (.strayCharacter c spot.position) spot.line), spot.line⟩]
      | none, [] => .stop []

/-- The tokens of the characters from a place on. Each step passes at least one. -/
def scanFrom (mode : Mode) (spot : Spot) : List Char → List Token
  | [] => []
  | c :: r =>
    let step := match mode with
      | .plain => plainStep spot.line (c :: r)
      | .inside zone brackets afterPoint => insideStep zone brackets afterPoint spot (c :: r)
    match step.next with
    | none => step.tokens
    | some (mode, n) =>
      step.tokens ++ scanFrom mode (spot.advance (c :: r.take (n - 1))) (r.drop (n - 1))
termination_by s => s.length
decreasing_by simp only [List.length_drop, List.length_cons]; omega

/-- The tokens of a template, up to its end or to what cannot be read. -/
def scan (source : String) : List Token :=
  let tokens := scanFrom .plain ⟨1, 0⟩ (dropFinalBreak (unifyLines source.toList))
  match tokens.getLast? with
  | some ⟨.broken _, _⟩ => tokens
  | last => tokens ++ [⟨.finish, (last.map (·.line)).getD 1⟩]

end Folio.Template
