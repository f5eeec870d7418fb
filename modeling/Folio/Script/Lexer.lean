import Folio.Script.Token
import Folio.Text.Blank
import Folio.Fault

/-!
# From characters to tokens

`scan` cuts a script into tokens that cover it without a gap. What begins at a character `c`
followed by `r` is a `Shape`: a kind, the number of further characters that it takes from `r`, and
the mode in which the rest is read. Since each token takes `c`, the rest is always shorter.

A slash is the delicate character: it begins a regular expression where an operand may stand
(`Mode.operand`) and is an operator elsewhere.
-/

namespace Folio.Script

open Text

/-- What encloses the current position inside a template literal. -/
inductive Nesting
  | template
  | substitution
  deriving DecidableEq, Repr

structure Mode where
  /-- The enclosing template literals and substitutions, innermost first. -/
  nesting : List Nesting
  /-- Whether a slash would begin a regular expression. -/
  operand : Bool
  deriving DecidableEq, Repr

structure Shape where
  kind : Kind
  /-- How many characters the token takes after its first. -/
  more : Nat
  mode : Mode
  deriving DecidableEq, Repr

/-! ## Lengths of lexemes -/

def run (p : Char → Bool) (s : List Char) : Nat :=
  (s.takeWhile p).length

/-- The length of a block comment's body and its closing mark. -/
def blockCommentLength : List Char → Option Nat
  | '*' :: '/' :: _ => some 2
  | _ :: r => (blockCommentLength r).map (· + 1)
  | [] => none

def startsHtmlComment (c : Char) (r : List Char) : Bool :=
  c == '<' && ['!', '-', '-'].isPrefixOf r

/-- A blank run, the mark `<!--`, a line comment or a block comment. -/
def triviaShape (c : Char) (r : List Char) : Option (Kind × Nat) :=
  if isBlank c then some (.blank, run isBlank r)
  else if startsHtmlComment c r then some (.comment, 3)
  else if c = '/' then
    match r with
    | '/' :: r => some (.comment, run (· ≠ '\n') r + 1)
    | '*' :: r => (blockCommentLength r).map fun n => (.comment, n + 1)
    | _ => none
  else none

/-- The length of a regular expression after its opening slash, up to the closing one; a slash
inside a character class does not close it. -/
def regexBodyLength (inClass : Bool) : List Char → Option Nat
  | [] => none
  | '\\' :: [] => none
  | '\\' :: _ :: r => (regexBodyLength inClass r).map (· + 2)
  | c :: r =>
    if c = '\n' then none
    else if inClass then (regexBodyLength (c ≠ ']') r).map (· + 1)
    else if c = '/' then some 1
    else (regexBodyLength (c = '[') r).map (· + 1)

def isRegexFlag (c : Char) : Bool :=
  c == 'g' || c == 'i' || c == 'm' || c == 'u' || c == 'y' || c == 's' || c == 'd'

/-- A regular expression after its opening slash: body and flags, with no word character next. -/
def regexLength (r : List Char) : Option Nat :=
  match regexBodyLength false r with
  | none => none
  | some n =>
    let flags := run isRegexFlag (r.drop n)
    match r.drop (n + flags) with
    | [] => some (n + flags)
    | c :: _ => if isWord c then none else some (n + flags)

def exponentLength : List Char → Nat
  | c :: r =>
    if c = 'e' ∨ c = 'E' then
      let sign := if r.head? = some '+' ∨ r.head? = some '-' then 1 else 0
      let digits := run isAsciiDigit (r.drop sign)
      if digits = 0 then 0 else 1 + sign + digits
    else 0
  | [] => 0

/-- The mark of an integer without bound. -/
def bigMark (r : List Char) : Nat :=
  if r.head? = some 'n' then 1 else 0

/-- Digits of another radix after a leading zero, perhaps behind a letter. -/
def radixLength (skip : Nat) (p : Char → Bool) (r : List Char) : Option Nat :=
  let digits := run p (r.drop skip)
  if digits = 0 then none else some (skip + digits + bigMark (r.drop (skip + digits)))

def isBinaryDigit (c : Char) : Bool :=
  c == '0' || c == '1'

def isOctalDigit (c : Char) : Bool :=
  '0' ≤ c && c ≤ '7'

def prefixedNumberLength (c : Char) (r : List Char) : Option Nat :=
  if c ≠ '0' then none
  else
    match r with
    | [] => none
    | d :: _ =>
      if d = 'b' ∨ d = 'B' then radixLength 1 isBinaryDigit r
      else if d = 'o' ∨ d = 'O' then radixLength 1 isOctalDigit r
      else if d = 'x' ∨ d = 'X' then radixLength 1 isHexDigit r
      else radixLength 0 isOctalDigit r

def decimalLength (c : Char) (r : List Char) : Option Nat :=
  if isAsciiDigit c then
    let whole := run isAsciiDigit r
    match r.drop whole with
    | 'n' :: _ => some (whole + 1)
    | '.' :: rest =>
      let places := run isAsciiDigit rest
      some (whole + 1 + places + exponentLength (rest.drop places))
    | rest => some (whole + exponentLength rest)
  else if c = '.' then
    let places := run isAsciiDigit r
    if places = 0 then none else some (places + exponentLength (r.drop places))
  else none

def numberLength (c : Char) (r : List Char) : Option Nat :=
  (prefixedNumberLength c r).orElse fun _ => decimalLength c r

/-- Operators that take no following equals sign, in the order in which they are tried. -/
def fixedOperators : List String :=
  ["++", "--", "~", "??=", "??", "?", ":"]

/-- Operators that also take a following equals sign, in the order in which they are tried. -/
def assignableOperators : List String :=
  ["<<", ">>>", ">>", "==", "=", "!=", "!", "**", "||", "&&",
    "-", "<", ">", "+", "*", "%", "&", "|", "^", "/"]

/-- The first of some texts that the input begins with. -/
def firstPrefix (texts : List String) (s : List Char) : Option String :=
  texts.find? fun t => t.toList.isPrefixOf s

def operatorLength (c : Char) (r : List Char) : Option Nat :=
  match firstPrefix fixedOperators (c :: r) with
  | some t => some (t.length - 1)
  | none =>
    if c = '\\' ∧ r.head? = some '\n' then some 0
    else
      match firstPrefix assignableOperators (c :: r) with
      | some t =>
        let n := t.length - 1
        some (if (r.drop n).head? = some '=' then n + 1 else n)
      | none => none

/-- The length of a name's continuation. -/
def nameTailLength : List Char → Nat
  | '\\' :: 'u' :: a :: b :: c :: d :: r =>
    if isHexDigit a && isHexDigit b && isHexDigit c && isHexDigit d then nameTailLength r + 6 else 0
  | c :: r => if continuesName c then nameTailLength r + 1 else 0
  | [] => 0

def nameLength (c : Char) (r : List Char) : Option Nat :=
  if startsName c then some (nameTailLength r)
  else if c = '\\' then
    match r with
    | 'u' :: a :: b :: c :: d :: rest =>
      if isHexDigit a && isHexDigit b && isHexDigit c && isHexDigit d
      then some (nameTailLength rest + 5) else none
    | _ => none
  else none

/-- A member path that a parameterless body follows: word characters, `?`, `.` and `$` before an
empty parameter list, a space and an opening brace. -/
def bodyNameLength (c : Char) (r : List Char) : Option Nat :=
  if isAsciiLetter c || c == '_' || c == '$' then
    let n := run (fun d => isWord d || d == '?' || d == '.' || d == '$') r
    if ['(', ')', ' ', '\x7b'].isPrefixOf (r.drop n) then some n else none
  else none

/-- A quoted literal after its opening quote, up to the closing one. -/
def quotedLength (quote : Char) : List Char → Option Nat
  | [] => none
  | '\\' :: [] => none
  | '\\' :: _ :: r => (quotedLength quote r).map (· + 2)
  | c :: r => if c = quote then some 1 else (quotedLength quote r).map (· + 1)

/-! ## Reserved words -/

def operatorWords : List String :=
  ["typeof", "instanceof", "in", "void", "delete", "new"]

/-- Reserved only where no word character precedes. -/
def contextualWords : List String :=
  ["constructor", "from", "as"]

def keywords : List String :=
  ["for", "in", "while", "do", "break", "return", "continue", "switch", "case", "default", "if",
    "else", "throw", "try", "catch", "finally", "yield", "await", "async", "this", "of", "static",
    "export", "import", "debugger", "extends", "super"]

def declarationWords : List String :=
  ["var", "let", "const", "with", "function", "class"]

def reservedWords : List String :=
  ["abstract", "boolean", "byte", "char", "double", "enum", "final", "float", "goto",
    "implements", "int", "interface", "long", "native", "package", "private", "protected",
    "public", "short", "synchronized", "throws", "transient", "volatile"]

def constantWords : List String :=
  ["true", "false", "null", "NaN", "Infinity", "undefined"]

def builtinWords : List String :=
  ["Array", "Boolean", "Date", "BigInt", "Function", "Math", "ArrayBuffer", "Number", "Object",
    "RegExp", "String", "Promise", "Proxy", "decodeURI", "decodeURIComponent", "encodeURI",
    "encodeURIComponent", "eval", "isFinite", "isNaN", "parseFloat", "parseInt", "DataView",
    "document", "window", "globalThis", "global", "arguments", "Symbol", "Intl", "WeakSet",
    "WeakMap", "Set", "Map", "Reflect", "JSON", "Atomics", "Int8Array", "Int16Array",
    "Int32Array", "BigInt64Array", "Float32Array", "Float64Array", "Uint8ClampedArray",
    "Uint8Array", "Uint16Array", "Uint32Array", "BigUint64Array"]

def exceptionWords : List String :=
  ["Error", "EvalError", "InternalError", "RangeError", "ReferenceError", "SyntaxError",
    "TypeError", "URIError"]

/-- The kind of a reserved word and whether an operand may follow it. -/
def wordKind (previous : Option Char) (word : String) : Option (Kind × Bool) :=
  if word ∈ operatorWords then some (.operator, true)
  else if word ∈ contextualWords ∧ previous.all (!isWord ·) then some (.keyword, false)
  else if word ∈ keywords then some (.keyword, true)
  else if word ∈ declarationWords then some (.declaration, true)
  else if word ∈ reservedWords ∨ word ∈ constantWords then some (.keyword, false)
  else if word ∈ builtinWords ∨ word ∈ exceptionWords then some (.otherName, false)
  else none

/-! ## Shapes -/

/-- Whether a line that begins here may begin with an operand. -/
def lineOpensOperand (previous : Option Char) (c : Char) (r : List Char) : Bool :=
  previous.all (· == '\n') && (isBlank c || c == '/' || startsHtmlComment c r)

def punctuationShape (mode : Mode) (c : Char) (r : List Char) : Option Shape :=
  if c = '.' ∧ ['.', '.'].isPrefixOf r then some ⟨.punctuation, 2, mode⟩
  else if c = '=' ∧ r.head? = some '>' then some ⟨.punctuation, 1, mode⟩
  else none

def bracketShape (mode : Mode) (c : Char) : Option Shape :=
  if c = '\x7b' ∨ c = '(' ∨ c = '[' ∨ c = ';' ∨ c = ',' then
    some ⟨.punctuation, 0, { mode with operand := true }⟩
  else if c = '\x7d' ∨ c = ')' ∨ c = ']' ∨ c = '.' then some ⟨.punctuation, 0, mode⟩
  else none

/-- A reserved word, which takes the whole run of word characters. -/
def wordShape (mode : Mode) (previous : Option Char) (c : Char) (r : List Char) : Option Shape :=
  if isWord c then
    (wordKind previous (String.ofList (c :: r.takeWhile isWord))).map fun k =>
      ⟨k.1, run isWord r, { mode with operand := k.2 }⟩
  else none

def literalShape (mode : Mode) (c : Char) (r : List Char) : Option Shape :=
  if c = '"' then (quotedLength c r).map fun n => ⟨.doubleQuoted, n, mode⟩
  else if c = '\'' then (quotedLength c r).map fun n => ⟨.singleQuoted, n, mode⟩
  else if c = '`' then some ⟨.templateText, 0, { mode with nesting := .template :: mode.nesting }⟩
  else if c = '#' then
    match r with
    | d :: rest =>
      if isAsciiLetter d || d == '_' then some ⟨.otherName, run isWord rest + 1, mode⟩ else none
    | [] => none
  else none

/-- What begins in plain code where a slash is an operator. -/
def plainShape (mode : Mode) (previous : Option Char) (c : Char) (r : List Char) : Option Shape :=
  match numberLength c r with
  | some n => some ⟨.number, n, mode⟩
  | none =>
  match punctuationShape mode c r with
  | some s => some s
  | none =>
  match operatorLength c r with
  | some n => some ⟨.operator, n, { mode with operand := true }⟩
  | none =>
  match bracketShape mode c with
  | some s => some s
  | none =>
  match wordShape mode previous c r with
  | some s => some s
  | none =>
  match bodyNameLength c r with
  | some n => some ⟨.plainName, n, { mode with operand := true }⟩
  | none =>
  match nameLength c r with
  | some n => some ⟨.plainName, n, mode⟩
  | none => literalShape mode c r

/-- What begins in code: trivia, a regular expression or a plain shape. -/
def codeShape (mode : Mode) (previous : Option Char) (c : Char) (r : List Char) : Option Shape :=
  if previous = none ∧ c = '#' ∧
      (['!', '/'].isPrefixOf r ∨ ['!', ' ', '/'].isPrefixOf r) then
    some ⟨.comment, run (· ≠ '\n') r, mode⟩
  else
    let operand := mode.operand || lineOpensOperand previous c r
    match triviaShape c r with
    | some (kind, n) => some ⟨kind, n, { mode with operand }⟩
    | none =>
      if operand ∧ c = '/' then
        (regexLength r).map fun n => ⟨.regex, n, { mode with operand := false }⟩
      else plainShape { mode with operand := false } previous c r

/-- What begins between back quotes. -/
def templateShape (outer : List Nesting) (c : Char) (r : List Char) : Option Shape :=
  let inside : Mode := ⟨.template :: outer, false⟩
  if c = '`' then some ⟨.templateText, 0, ⟨outer, false⟩⟩
  else if c = '\\' then if r.isEmpty then none else some ⟨.templateText, 1, inside⟩
  else if c = '$' then
    if r.head? = some '\x7b' then
      some ⟨.substitution, 1, ⟨.substitution :: inside.nesting, false⟩⟩
    else some ⟨.templateText, 0, inside⟩
  else some ⟨.templateText, run (fun d => d ≠ '`' && d ≠ '\\' && d ≠ '$') r, inside⟩

/-- What begins at `c` before `r`; `none` if no token does. -/
def shape (mode : Mode) (previous : Option Char) (c : Char) (r : List Char) : Option Shape :=
  match mode.nesting with
  | .template :: outer => templateShape outer c r
  | .substitution :: outer =>
    if c = '\x7d' then some ⟨.substitution, 0, ⟨outer, false⟩⟩ else codeShape mode previous c r
  | [] => codeShape mode previous c r

/-! ## Scanning -/

/-- A cause at an offset of a script. -/
structure Defect where
  cause : Cause
  offset : Nat
  deriving DecidableEq, Repr

/-- The tokens of the characters from `offset` on. -/
def scanFrom (mode : Mode) (previous : Option Char) (offset : Nat) :
    List Char → Except Defect (List Token)
  | [] => .ok []
  | c :: r =>
    match shape mode previous c r with
    | none => .error ⟨.unexpectedCharacter c, offset⟩
    | some s =>
      let text := c :: r.take s.more
      match scanFrom s.mode text.getLast? (offset + text.length) (r.drop s.more) with
      | .error defect => .error defect
      | .ok rest => .ok (⟨s.kind, String.ofList text, offset, false⟩ :: rest)
termination_by s => s.length
decreasing_by simp only [List.length_drop, List.length_cons]; omega

/-- All tokens of a script, trivia included. -/
def scan (source : List Char) : Except Defect (List Token) :=
  scanFrom ⟨[], false⟩ none 0 source

end Folio.Script
