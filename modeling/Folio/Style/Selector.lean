import Folio.Style.Reader

/-!
# Selectors

A `Selector` is a list of chains between commas; a chain is made of compounds with combinators
between them. `readSelector` reads one, `Selector.render` prints it expanded or compact, and
`Selector.published` leaves out the chains that hold a placeholder.
-/

namespace Folio.Style

open Read Text

mutual

inductive Compound
  | done
  | plain (s : String) (rest : Compound)
  /-- A part whose blanks do not matter in a compact text. -/
  | loose (s : String) (rest : Compound)
  | placeholder (s : String) (rest : Compound)
  /-- A part with a selector inside brackets. -/
  | wrapping (head : String) (inner : Selector) (rest : Compound)
  deriving DecidableEq, Repr

inductive Chain
  | done
  | combinator (sign : Char) (rest : Chain)
  /-- A compound; `lineEnd` tells whether the line ends behind it. -/
  | compound (c : Compound) (lineEnd : Bool) (rest : Chain)
  deriving DecidableEq, Repr

inductive Selector
  | done
  /-- A chain; `lineEnd` tells whether it begins a line. -/
  | more (lineEnd : Bool) (c : Chain) (rest : Selector)
  deriving DecidableEq, Repr

end

/-! ## Printing -/

/-- What stands before a piece of a selector: as much as its neighbours ask for. -/
inductive Gap
  | none
  | space
  | line
  deriving DecidableEq, Repr

def Gap.text : Gap → List Char
  | none => []
  | space => [' ']
  | line => ['\n']

/-- The greater of two gaps. -/
def Gap.or : Gap → Gap → Gap
  | line, _ | _, line => line
  | space, _ | _, space => space
  | none, none => none

mutual

def Compound.render (compactly : Bool) : Compound → List Char
  | .done => []
  | .plain s rest | .placeholder s rest => s.toList ++ rest.render compactly
  | .loose s rest =>
    (if compactly then s.toList.filter (!isSpace ·) else s.toList) ++ rest.render compactly
  | .wrapping head inner rest =>
    head.toList ++ '(' :: inner.render compactly .none ++ ')' :: rest.render compactly

/-- A chain behind a gap. -/
def Chain.render (compactly : Bool) (gap : Gap) : Chain → List Char
  | .done => []
  | .combinator sign rest =>
    (if compactly then [] else gap.text)
      ++ sign :: rest.render compactly (if compactly then .none else .space)
  | .compound c lineEnd rest =>
    let next : Gap := if lineEnd && !compactly then .line else .space
    gap.text ++ c.render compactly ++ rest.render compactly next

/-- The chains behind a gap. -/
def Selector.render (compactly : Bool) (gap : Gap) : Selector → List Char
  | .done => []
  | .more lineEnd c rest =>
    let gap := if lineEnd && !compactly then gap.or .line else gap
    let comma := match rest with | .done => [] | _ => [',']
    c.render compactly gap ++ comma
      ++ rest.render compactly (if compactly then .none else .space)

end

/-! ## Placeholders -/

mutual

def Compound.hasPlaceholder : Compound → Bool
  | .done => false
  | .plain _ rest | .loose _ rest => rest.hasPlaceholder
  | .placeholder _ _ => true
  | .wrapping _ inner rest => inner.allPlaceholders || rest.hasPlaceholder

def Chain.hasPlaceholder : Chain → Bool
  | .done => false
  | .combinator _ rest => rest.hasPlaceholder
  | .compound c _ rest => c.hasPlaceholder || rest.hasPlaceholder

/-- Whether no chain is free of placeholders. -/
def Selector.allPlaceholders : Selector → Bool
  | .done => true
  | .more _ c rest => c.hasPlaceholder && rest.allPlaceholders

end

/-- The chains without placeholders. -/
def Selector.published : Selector → Selector
  | .done => .done
  | .more lineEnd c rest =>
    if c.hasPlaceholder then rest.published else .more lineEnd c rest.published

/-! ## Reading -/

/-- The functions of selectors whose argument is a selector. -/
def selectorFunctions : List String :=
  ["not", "matches", "current", "any", "has", "host", "host-context", "slotted"]

/-- A name without the mark of a maker in front of it. -/
def withoutMaker (name : List Char) : String :=
  match name with
  | '-' :: c :: r =>
    if c = '-' then String.ofList name
    else
      match r.dropWhile (· ≠ '-') with
      | '-' :: bare => String.ofList bare
      | _ => String.ofList name
  | _ => String.ofList name

/-- Whether the line ends before anything but comments, and no body begins. -/
def lineEnds (s : List Char) : Bool :=
  let commentOrSpace (s : List Char) : Nat :=
    match s with
    | ' ' :: _ | '\t' :: _ => 1
    | _ => commentLength s
  match s.drop (many commentOrSpace s) with
  | '/' :: '/' :: _ | '\n' :: _ | '\r' :: _ => !begins "\x7b" (afterGaps s)
  | _ => false

/-- The length of a sign that makes a repeated position out of a number, such as `2n + 1`. -/
def positionLength (s : List Char) : Nat :=
  let gap (s : List Char) : Nat := (s.takeWhile isSpace).length
  let sign := signLength s
  let digits := digitsLength (s.drop sign)
  let afterDigits := s.drop (sign + digits)
  match afterDigits with
  | 'n' :: r =>
    let before := gap r
    let afterSign := r.drop before
    let inner := gap (afterSign.drop 1)
    let more := digitsLength (afterSign.drop (1 + inner))
    if signLength afterSign = 1 ∧ more ≠ 0 then
      sign + digits + 1 + before + 1 + inner + more
    else sign + digits + 1
  | _ =>
    if digits ≠ 0 then sign + digits
    else if beginsWord "even" s then 4
    else if beginsWord "odd" s then 3
    else 0

/-- The number of characters up to the bracket that closes an open one. -/
def closingBracket (depth : Nat) (quote : Option Char) : List Char → Option Nat
  | [] => none
  | '\\' :: _ :: r => (closingBracket depth quote r).map (· + 2)
  | c :: r =>
    let further depth quote := (closingBracket depth quote r).map (· + 1)
    match quote with
    | some q => further depth (if c = q then none else quote)
    | none =>
      if c = '"' ∨ c = '\'' then further depth (some c)
      else if c = '(' ∨ c = '[' then further (depth + 1) none
      else if c = ')' ∨ c = ']' then
        match depth with
        | 0 => some 0
        | depth + 1 => further depth none
      else further depth none

/-- The signs that compare an attribute. -/
def attributeSigns : List String :=
  ["=", "~=", "|=", "^=", "$=", "*="]

def isCombinator (c : Char) : Bool :=
  c == '>' || c == '+' || c == '~'

/-- Reads what follows the opening bracket of an attribute. -/
def readAttribute : Read String := do
  skipGaps
  let s ← rest
  let name := many (nameCharLength true) s
  if name = 0 then refuse "identifier"
  let word ← take name
  let text := '[' :: word
  if ← accept "]" then return String.ofList (text ++ [']'])
  let s := afterGaps (← rest)
  match attributeSigns.find? fun sign => begins sign s with
  | none => refuse "\"]\""
  | some sign =>
    let _ ← accept sign
    skipGaps
    let s ← rest
    let string := quotedLength s
    let value ← if string != 0 then take string else take (nameLength s)
    if value.isEmpty then refuse "identifier or string"
    skipGaps
    let flag := (← rest).takeWhile isAsciiLetter
    let _ ← take flag.length
    if !(← accept "]") then refuse "\"]\""
    let quote := value.head?.filter fun c => c == '"' || c == '\''
    let shown := match quote with
      | some q => (inQuotes q (String.ofList ((joinLines (value.drop 1)).dropLast))).toList
      | none => value
    let ending := if flag.isEmpty then [] else ' ' :: flag
    return String.ofList (text ++ sign.toList ++ shown ++ ending ++ [']'])

section Inside

/- What reads the selector inside brackets. -/
variable (inner : Read Selector)

/-- Reads the argument of a function of a selector, its closing bracket included. -/
def readSelectorArgument (head name : List Char) : Read (Compound → Compound) := do
  let s ← rest
  let gap := many gapLength s
  let position := positionLength (s.drop gap)
  if position != 0 && begins ")" (afterGaps (s.drop (gap + position))) then
    let _ ← take gap
    let word ← take position
    let _ ← accept ")"
    return fun rest => .plain (String.ofList (head ++ ['(']))
      (.loose (String.ofList word) (.plain ")" rest))
  else if selectorFunctions.contains (withoutMaker name) then
    let selector ← inner
    if !(← accept ")") then refuse "\")\""
    return .wrapping (String.ofList head) selector
  else
    match closingBracket 0 none s with
    | none => refuse "\")\""
    | some n =>
      let word ← take (n + 1)
      return .plain (String.ofList (head ++ '(' :: word))

/-- Reads one part of a compound; `none` where none begins. -/
def readPart : Read (Option (Compound → Compound)) := do
  skip (many commentLength)
  let s ← rest
  let word (n : Nat) : Read (Option (Compound → Compound)) := do
    return some (.plain (String.ofList (← take n)))
  match s with
  | '*' :: _ => word 1
  | '|' :: r => word (nameLength r + 1)
  | '.' :: r => if nameLength r = 0 then return none else word (nameLength r + 1)
  | '#' :: r =>
    let n := many (nameCharLength true) r
    if n = 0 then return none else word (n + 1)
  | '%' :: r =>
    if nameLength r = 0 then return none
    return some (.placeholder (String.ofList (← take (nameLength r + 1))))
  | '[' :: _ =>
    let _ ← take 1
    return some (.plain (← readAttribute))
  | ':' :: r =>
    let colons := if r.head? = some ':' then 2 else 1
    let name := nameLength (s.drop colons)
    if name = 0 then return none
    let head ← take (colons + name)
    if begins "(" (← rest) then
      let _ ← take 1
      return some (← readSelectorArgument inner head (head.drop colons))
    else return some (.plain (String.ofList head))
  | _ =>
    let number := numberLength s
    if nameLength s != 0 then word (nameLength s)
    else if number != 0 && signLength s = 0 then
      word (number + if (s.drop number).head? = some '%' then 1 else 0)
    else return none

/-- Reads the parts of a compound. -/
def readParts : Nat → Read Compound
  | 0 => return .done
  | bound + 1 => do
    match ← readPart inner with
    | none => return .done
    | some part => return part (← readParts bound)

/-- Reads a chain up to where none goes on. -/
def readChain : Nat → Read Chain
  | 0 => return .done
  | bound + 1 => do
    skipGaps
    match ← rest with
    | c :: _ =>
      if isCombinator c then
        let _ ← take 1
        return .combinator c (← readChain bound)
      else
        let compound ← readParts inner (← remaining)
        if compound = .done then return .done
        let lineEnd := lineEnds (← rest)
        return .compound compound lineEnd (← readChain bound)
    | [] => return .done

/-- Leaves out commas, and answers how many there were and whether the line ends behind one. -/
def skipCommas : Nat → Read (Nat × Bool)
  | 0 => return (0, false)
  | bound + 1 => do
    if ← accept "," then
      let lineEnd := lineEnds (← rest)
      let (n, later) ← skipCommas bound
      return (n + 1, lineEnd || later)
    else return (0, false)

/-- Reads chains between commas; commas at the end do not matter. -/
def readChains (lineEnd : Bool) : Nat → Read Selector
  | 0 => return .done
  | bound + 1 => do
    let s := afterGaps (← rest)
    if s.head?.any fun c => c == ',' || c == '\x7b' || c == ')' then return .done
    let chain ← readChain inner (← remaining)
    if chain = .done then return .done
    let (commas, lineEnd') ← skipCommas (← remaining)
    if commas = 0 then return .more lineEnd chain .done
    return .more lineEnd chain (← readChains lineEnd' bound)

/-- Reads a selector, which is not empty. -/
def readSelectorWith : Read Selector := do
  let s := afterGaps (← rest)
  if s.isEmpty || s.head?.any fun c => c == ',' || c == '\x7b' then refuse "selector"
  readChains inner (lineEnds (← rest)) (← remaining)

end Inside

/-- How deeply selectors may lie inside brackets. -/
def maxSelectorNesting : Nat := 100

/-- Reads a selector that lies at most `room` brackets inside. -/
def readSelectorWithin : Nat → Read Selector
  | 0 => fail .tooDeep
  | room + 1 => readSelectorWith (readSelectorWithin room)

def readSelector : Read Selector :=
  readSelectorWithin maxSelectorNesting

end Folio.Style
