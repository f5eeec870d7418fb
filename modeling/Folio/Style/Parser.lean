import Folio.Style.ColorFunction
import Folio.Style.Function
import Folio.Style.Reader

/-!
# Reading expressions

`readList` reads a value: items between commas, each of them operations side by side. Loops are
bounded by the characters that are left; what lies inside brackets takes room, of which there is a
fixed amount.
-/

namespace Folio.Style

open Read Text

def someExpression : String := "expression (e.g. 1px, bold)"

/-! ## Words -/

/-- What is between the quotes of a string: escapes stand for the characters that they write. The
bound is the number of characters. -/
def unescape : Nat → List Char → List Char
  | 0, _ | _, [] => []
  | bound + 1, '\\' :: r =>
    let digits := r.takeWhile isHexDigit
    if digits.isEmpty then
      match r with
      | c :: r => c :: unescape bound r
      | [] => []
    else
      let n := hexValue digits
      let rest := r.drop digits.length
      let rest := if rest.head? = some ' ' then rest.drop 1 else rest
      (if n = 0 then Char.ofNat 0xFFFD else Char.ofNat n) :: unescape bound rest
  | bound + 1, c :: r => c :: unescape bound r

/-- The string that a word in quotes writes. -/
def stringOf (word : List Char) : Expression :=
  let inner := joinLines (word.drop 1).dropLast
  .quoted (String.ofList (unescape inner.length inner))

/-- The color of a name, or else the name. -/
def nameOf (word : List Char) : Expression :=
  let name := String.ofList word
  ((Color.ofName? name).map .color).getD (.text (String.ofList (joinLines word)))

/-- A number whose unit is a part of the word. -/
def numberOf (number unit : List Char) : Expression :=
  .number (.read number unit)

/-- The length of a link without quotes, up to its closing bracket and the blanks before it;
`none` if it is none. -/
def linkLength : List Char → Option Nat
  | [] => none
  | c :: r =>
    if (r' (c :: r)).head? = some ')' then some 0
    else if (42 ≤ c.toNat && c.toNat ≠ 127) || c == '#' || c == '%' || c == '&' then
      (linkLength r).map (· + 1)
    else none
where
  /-- What follows blanks. -/
  r' (s : List Char) : List Char := s.dropWhile isSpace

/-- The number of characters up to the bracket that closes an open one, strings left out. -/
def scopeLength (depth : Nat) (quote : Option Char) : List Char → Option Nat
  | [] => none
  | '\\' :: _ :: r => (scopeLength depth quote r).map (· + 2)
  | c :: r =>
    let further depth quote := (scopeLength depth quote r).map (· + 1)
    match quote with
    | some q => further depth (if c = q then none else quote)
    | none =>
      if c = '"' ∨ c = '\'' then further depth (some c)
      else if c = '(' then further (depth + 1) none
      else if c = ')' then
        match depth with
        | 0 => some 0
        | depth + 1 => further depth none
      else further depth none

/-- The names of functions whose argument is kept as it is written. -/
def verbatimFunctions : List String :=
  ["calc", "-webkit-calc", "-moz-calc", "-ms-calc", "-o-calc"]

/-- Reads a function whose argument is kept as it is written, if there is one. -/
def readVerbatim? : Read (Option Expression) := do
  let s ← rest
  match verbatimFunctions.find? fun f => begins (f ++ "(") s with
  | none => return none
  | some f =>
    let inner := s.drop (f.length + 1)
    match scopeLength 0 none inner with
    | none => return none
    | some n =>
      let _ ← take (f.length + 1 + n + 1)
      let argument := String.ofList (trimEnd isSpace (inner.take n))
      return some (.text (f ++ "(" ++ argument ++ ")"))

/-- Reads a link without quotes, if there is one. -/
def readLink? : Read (Option Expression) := do
  let s ← rest
  if !begins "url(" s then return none
  let inner := (s.drop 4).dropWhile isSpace
  match linkLength inner with
  | none => return none
  | some n =>
    let link := inner.take n
    let after := ((inner.drop n).takeWhile isSpace).length + 1
    let _ ← take (s.length - inner.length + n + after)
    return some (.text ("url(" ++ String.ofList link ++ ")"))

/-- Reads a keyword with a value behind an equals sign, if there is one. -/
def readKeyword? : Read (Option Expression) := do
  let s ← rest
  let name := nameLength s
  let gap := many blankLength (s.drop name)
  match s.drop (name + gap) with
  | '=' :: r =>
    let space := many blankLength r
    let value := r.drop space
    let n := [nameLength, quotedLength, numberLength].foldl
      (fun n f => if n = 0 then f value else n) 0
    if name = 0 ∨ n = 0 then return none
    let _ ← take (name + gap + 1 + space + n)
    return some (.text (String.ofList (s.take name ++ '=' :: value.take n)))
  | _ => return none

/-- Reads one value without brackets. -/
def readValue : Read Expression := do
  skipGaps
  let s ← rest
  let number := numberLength s
  let string := quotedLength s
  let name := nameLength s
  let afterNumber := s.drop number
  let important := markLength "important" s
  if important != 0 then
    let _ ← take important
    return .text "!important"
  if number != 0 && signLength afterNumber != 0 && numberLength (afterNumber.drop 1) != 0 then
    return numberOf (← take number) []
  if string != 0 then return stringOf (← take string)
  if beginsWord "true" s then
    let _ ← take 4
    return .truth true
  if beginsWord "false" s then
    let _ ← take 5
    return .truth false
  if beginsWord "null" s then
    let _ ← take 4
    return .null
  if name != 0 then return nameOf (← take name)
  if number != 0 && afterNumber.head? = some '%' then
    let word ← take (number + 1)
    return numberOf (word.take number) ['%']
  let hex := hexLength [3, 6] s
  if hex != 0 && (s.drop hex).head? != some '-' then return .color (.ofHex (← take hex))
  let hex := hexLength [4, 8] s
  if hex != 0 then return .color (.ofHex (← take hex))
  if s.head? = some '#' && nameLength (s.drop 1) != 0 then
    return .text (String.ofList (← take (nameLength (s.drop 1) + 1)))
  if number != 0 then
    let unit := unitLength afterNumber
    let dash := if unit != 0 && (afterNumber[unit]?, afterNumber[unit + 1]?) = (some '-', some ' ')
      then 1 else 0
    let word ← take (number + unit + dash)
    return numberOf (word.take number) (word.drop number)
  let variable_ := variableLength s
  if variable_ != 0 then
    let at_ ← here
    return .variable (dashed ((← take variable_).drop 1)) at_
  refuse someExpression

/-! ## Levels -/

/-- Whether nothing more of a list follows. -/
def endsList (s : List Char) : Bool :=
  let s := afterGaps s
  match s with
  | [] => true
  | c :: _ =>
    ";\x7b\x7d)]:".toList.contains c || begins "..." s || markLength "default" s != 0
      || markLength "global" s != 0

section Levels

/- What reads the value inside brackets. -/
variable (inner : Read Expression)

/-- The signs and blanks before a number, and whether they leave it as it is. -/
def signsLength : List Char → Nat × Bool
  | '-' :: r => let (n, positive) := signsLength r; (n + 1, !positive)
  | '+' :: r => let (n, positive) := signsLength r; (n + 1, positive)
  | c :: r => if isSpace c then let (n, positive) := signsLength r; (n + 1, positive) else (0, true)
  | [] => (0, true)

/-- Reads the arguments of a call behind its opening bracket. -/
def readArguments (item : Read Expression) : Nat → Read Expressions
  | 0 => return .done
  | bound + 1 => do
    if ← accept ")" then return .done
    let s := afterGaps (← rest)
    if s.head?.any fun c => c == ',' || c == ';' || c == '\x7b' then refuse "\")\""
    let named := variableLength s
    if named != 0 && begins ":" (afterGaps (s.drop named)) then
      skipGaps
      let name := dashed ((← take named).drop 1)
      let _ ← accept ":"
      let e ← item
      if ← accept "," then return .more (some name) e (← readArguments item bound)
      if ← accept ")" then return .more (some name) e .done
      refuse someExpression
    else
      let e ← item
      if ← accept "," then return .more none e (← readArguments item bound)
      if ← accept ")" then return .more none e .done
      refuse someExpression

/-- Whether a function is computed, and not left to a browser. -/
def isComputed (function : String) : Bool :=
  (Function.all.any fun f => dashed f.name.toList = function)
    || (ColorFunction.ofName? function).isSome

/-- Reads a call. The values of the arguments count where it is computed. -/
def readCall (item : Read Expression) : Read Expression := do
  let at_ ← here
  let name ← take (nameLength (← rest))
  let _ ← take 1
  let arguments ← readArguments item (← remaining)
  let arguments := if isComputed (dashed name) then arguments.forced else arguments
  return .call (String.ofList name) at_ arguments

/-- Reads a value, perhaps in brackets or with a sign. `item` reads an argument. -/
def readFactor (item : Read Expression) : Nat → Read Expression
  | 0 => readValue
  | bound + 1 => do
    skipGaps
    let s ← rest
    let name := nameLength s
    if ← accept "(" then
      let e ← inner
      if !(← accept ")") then fail (.unclosed "parenthesis")
      return .grouped e.forced
    if ← accept "[" then
      let e ← inner
      if !(← accept "]") then fail (.unclosed "squared bracket")
      return .bracketed e
    if let some e ← readKeyword? then return e
    if let some e ← readVerbatim? then return e
    if let some e ← readLink? then return e
    if name != 0 && (s.drop name).head? = some '(' then return ← readCall item
    let signed sign := do
      let _ ← take 1
      return Expression.signed sign (← readFactor item bound)
    match s with
    | '/' :: _ => signed .slash
    | c :: r =>
      if c = '-' ∨ c = '+' then
        let (n, positive) := signsLength s
        if numberLength r != 0 && numberLength (s.drop n) != 0 then
          let _ ← take n
          let e ← readValue
          return if positive then e else .signed .minus e
        else if c = '+' then signed .plus
        else if name = 0 then signed .minus
        else readValue
      else if beginsWord "not" s then
        let _ ← take 3
        return .signed .not (← readFactor item bound)
      else readValue
    | [] => readValue

/-- The operator of a product that follows behind gaps. -/
def productOperator? (s : List Char) : Option Operator :=
  match afterGaps s with
  | '*' :: _ => some .times
  | '/' :: _ => some .quotient
  | '%' :: _ => some .remainder
  | _ => none

/-- Whether a minus sign follows that is not the beginning of a name. -/
def minusFollows (s : List Char) : Bool :=
  begins "-" (afterGaps s) && nameLength (afterGaps s) == 0

/-- Whether a sum begins behind a first operand: a minus sign that stands apart from it must not
touch a number. -/
def beginsSum (s : List Char) : Bool :=
  let near := s.head?.any fun c => !isSpace c
  let next := afterBlanks s
  let minus :=
    match next with
    | '-' :: r => (near && !(r.head?.any isSpace)) || unsignedLength r == 0
    | _ => false
  (begins "+" (afterGaps s) || minus) && nameLength next == 0

/-- The operator of a sum that follows behind gaps. -/
def sumOperator? (s : List Char) : Option Operator :=
  if begins "+" (afterGaps s) then some .plus
  else if minusFollows s then some .minus
  else none

/-- The comparison that follows behind blanks, and its length. -/
def comparison? (s : List Char) : Option (Operator × Nat) :=
  let signs : List (String × Operator) := [("==", .equal), ("!=", .unequal), (">=", .atLeast),
    (">", .above), ("<=", .atMost), ("<", .below)]
  (signs.find? fun (sign, _) => begins sign (afterBlanks s)).map fun (sign, operator) =>
    (operator, sign.length)

/-- The operator and its length that follow behind gaps, if they are the word. -/
def wordOperator? (word : String) (operator : Operator) (s : List Char) : Option (Operator × Nat) :=
  if beginsWord word (afterGaps s) then some (operator, word.length) else none

/-- Reads further operands behind a first one, from the left. -/
def readOperands (next? : List Char → Option (Operator × Nat)) (operand : Read Expression)
    (at_ : Location) : Nat → Expression → Read Expression
  | 0, e => return e
  | bound + 1, e => do
    match next? (← rest) with
    | none => return e
    | some (operator, length) =>
      skipGaps
      let _ ← take length
      let other ← operand
      readOperands next? operand at_ bound (.operate operator at_ e other)

/-- Reads operands with operators of one level between them. -/
def readLevel (next? : List Char → Option (Operator × Nat)) (operand : Read Expression) :
    Read Expression := do
  skipGaps
  settle
  let at_ ← here
  let e ← operand
  readOperands next? operand at_ (← remaining) e

/-- Reads operands with arithmetic operators between them. -/
def readSum (item : Read Expression) : Read Expression := do
  skipGaps
  settle
  let at_ ← here
  let product := readLevel (fun s => (productOperator? s).map (·, 1)) do
    readFactor inner item (← remaining)
  let e ← product
  if beginsSum (← rest) then
    readOperands (fun s => (sumOperator? s).map (·, 1)) product at_ (← remaining) e
  else return e

/-- Reads one item of a list. -/
def readItem (item : Read Expression) : Read Expression :=
  readLevel (wordOperator? "or" .or)
    (readLevel (wordOperator? "and" .and) (readLevel comparison? (readSum inner item)))

/-- Reads further items up to the end of a list. -/
def readItems (item : Read Expression) : Nat → Read (List Expression)
  | 0 => return []
  | bound + 1 => do
    let s ← rest
    if endsList s || begins "," (afterGaps s) then return []
    let e ← readItem inner item
    return e :: (← readItems item bound)

/-- Reads items with blanks between them; one alone is no list. -/
def readSpaced (item : Read Expression) : Read Expression := do
  let e ← readItem inner item
  let more ← readItems inner item (← remaining)
  return if more.isEmpty then e else .list .space (.ofList (e :: more))

/-- Reads further elements behind commas. -/
def readElements (item : Read Expression) : Nat → Read (List Expression)
  | 0 => return []
  | bound + 1 => do
    if !(← accept ",") then return []
    if endsList (← rest) then return []
    let e ← readSpaced inner item
    return e :: (← readElements item bound)

/-- Reads elements with commas between them; one alone is no list. -/
def readElementsOrOne (item : Read Expression) : Read Expression := do
  if endsList (← rest) then return .list .space .done
  let e ← readSpaced inner item
  if !begins "," (afterGaps (← rest)) then return e
  return .list .comma (.ofList (e :: (← readElements inner item (← remaining))))

end Levels

/-! ## Nesting -/

/-- How deeply values may lie inside brackets. -/
def maxNesting : Nat := 56

/-- Readers of a list and of an argument that lie `room` brackets inside at most. -/
def readersWithin : Nat → Read Expression × Read Expression
  | 0 => (fail .tooDeep, fail .tooDeep)
  | room + 1 =>
    let (list, item) := readersWithin room
    (readElementsOrOne list item, readSpaced list item)

/-- Reads a value. -/
def readList : Read Expression :=
  (readersWithin maxNesting).1

end Folio.Style
