import Folio.Style.Lexeme

/-!
# Compact stylesheets

`compact` leaves out comments and the blanks that do not matter. Strings stay as they are, links
lose all blanks inside.
-/

namespace Folio.Style

open Text

namespace Compact

def isBlankSign (c : Char) : Bool :=
  c == '\r' || c == '\n' || c == '\x0c' || c == ' ' || c == '\t'

def isLineSign (c : Char) : Bool :=
  c == '\r' || c == '\n' || c == '\x0c'

def isNameSign (c : Char) : Bool :=
  isAsciiLetter c || isAsciiDigit c || c == '-' || c == '_' || 128 ≤ c.toNat

/-- The length of a blank or a comment. -/
def blankLength (s : List Char) : Nat :=
  match s with
  | c :: _ => if isBlankSign c then 1 else commentLength s
  | [] => 0

/-- The length of a string behind its opening quote. What ends a line stands in it behind a
backslash, if at all. -/
def stringEnd (quote : Char) : List Char → Option Nat
  | [] => none
  | '\\' :: '\r' :: '\n' :: r => (stringEnd quote r).map (· + 3)
  | '\\' :: _ :: r => (stringEnd quote r).map (· + 2)
  | c :: r =>
    if c = quote then some 1
    else if isLineSign c then none
    else (stringEnd quote r).map (· + 1)

/-- The length of a string; zero if none begins. -/
def stringLength : List Char → Nat
  | c :: r => if c = '"' ∨ c = '\'' then ((stringEnd c r).map (· + 1)).getD 0 else 0
  | [] => 0

/-- A string without the line ends behind backslashes. -/
def joined : List Char → List Char
  | '\\' :: '\r' :: '\n' :: r => joined r
  | '\\' :: c :: r => if isLineSign c then joined r else '\\' :: c :: joined r
  | c :: r => c :: joined r
  | [] => []

/-- The length of a link's address in quotes or without, blanks around it included, up to the
closing bracket; `none` if there is none. -/
def addressLength (s : List Char) : Option Nat :=
  let gap := (s.takeWhile isBlankSign).length
  let inner := s.drop gap
  let quoted := match inner with
    | c :: r => if c = '"' ∨ c = '\'' then (closingLength c r).map (· + 1) else none
    | [] => none
  let length := quoted.getD (bareLength inner)
  let after := inner.drop length
  let space := (after.takeWhile isBlankSign).length
  if (after.drop space).head? = some ')' then some (gap + length + space) else none
where
  /-- The length of an address without quotes. -/
  bareLength : List Char → Nat
    | [] => 0
    | '\\' :: _ :: r => bareLength r + 2
    | c :: r =>
      if c == '"' || c == '\'' || c == '(' || c == ')' || c == '\\' || c.toNat == 127
          || c.toNat < 32 && !isBlankSign c then 0
      else bareLength r + 1

/-- An address without blanks; escapes stay. -/
def withoutBlanks : List Char → List Char
  | '\\' :: c :: r =>
    if isLineSign c then withoutBlanks r else '\\' :: c :: withoutBlanks r
  | c :: r => if isBlankSign c then withoutBlanks r else c :: withoutBlanks r
  | [] => []

/-- The words whose braces hold rules. -/
def groupWords : List String :=
  ["@media", "@supports", "@document", "@keyframes", "@-webkit-keyframes", "@-moz-keyframes",
    "@-o-keyframes", "@-ms-keyframes"]

/-- The length of a word whose braces hold rules. -/
def groupLength (s : List Char) : Nat :=
  ((groupWords.find? fun word =>
    begins word (s.map Char.toLower) && !((s.drop word.length).head?.any isNameSign)).map
      (·.length)).getD 0

/-- Where a sheet is read: the character before, whether inside a rule, and how many groups of
rules are still to be opened. -/
structure Place where
  last : Option Char
  inRule : Bool
  groups : Nat
  deriving DecidableEq, Repr

/-- What blanks between two characters become. -/
def gapFor (p : Place) (next : Option Char) : List Char :=
  match p.last, next with
  | none, _ | _, none => []
  | some l, some n =>
    if "\x7b\x7d(=:>[,!".toList.contains l then []
    else if n = ':' then if p.inRule || p.groups != 0 then [] else [' ']
    else if "\x7b\x7d);=>],!".toList.contains n then []
    else [' ']

/-- The length of semicolons and the blanks between and behind them. -/
def semicolonsLength (s : List Char) : Nat :=
  many (fun s => if s.head? = some ';' then 1 else blankLength s) s

/-- The length of a selector of a first line or letter. -/
def firstLength (s : List Char) : Nat :=
  (([":first-line", ":first-letter"].find? fun word => begins word (s.map Char.toLower)).map
    (·.length)).getD 0

/-- The length of an escape behind its backslash: a blank behind digits belongs to it. -/
def escapeLength (s : List Char) : Nat :=
  let digits := ((s.take 6).takeWhile isHexDigit).length
  if digits = 0 then min 1 s.length
  else
    match s.drop digits with
    | '\r' :: '\n' :: _ => digits + 2
    | c :: _ => if isBlankSign c then digits + 1 else digits
    | [] => digits

/-- The characters that are kept. The bound is their number. -/
def keep : Nat → Place → List Char → List Char
  | 0, _, _ | _, _, [] => []
  | bound + 1, p, c :: r =>
    let s := c :: r
    let after (n : Nat) (p : Place) := keep bound { p with last := (s.take n).getLast? } (s.drop n)
    let gap := many blankLength s
    let string := stringLength s
    let first := firstLength s
    if gap != 0 then gapFor p (s.drop gap).head? ++ after gap p
    else if c = ';' then
      let n := semicolonsLength s
      (if p.inRule && (s.drop n).head? = some '\x7d' then [] else [';']) ++ after n p
    else if c = '\x7b' then
      c :: after 1 (if p.groups = 0 then { p with inRule := true }
        else { p with groups := p.groups - 1 })
    else if c = '\x7d' then c :: after 1 { p with inRule := false }
    else if string != 0 then joined (s.take string) ++ after string p
    else
      let link := if begins "url(" s && !(p.last.any isNameSign) then addressLength (s.drop 4)
        else none
      match link with
      | some n => "url(".toList ++ withoutBlanks (r.drop 3 |>.take n) ++ ')' :: after (n + 5) p
      | none =>
        let group := groupLength s
        if group != 0 then s.take group ++ after group { p with groups := p.groups + 1 }
        else if first != 0 then
          let space := many blankLength (s.drop first)
          let next := (s.drop (first + space)).head?
          if next = some '\x7b' ∨ next = some ',' then
            s.take first ++ ' ' :: after (first + space) p
          else s.take first ++ after first p
        else if c = '\\' then
          let n := escapeLength r
          (s.take (n + 1)).map (fun d => if isLineSign d || d == '\t' then ' ' else d)
            ++ after (n + 1) p
        else c :: after 1 p

end Compact

/-- A stylesheet without comments and blanks that do not matter. -/
def compact (css : String) : String :=
  let s := css.toList
  String.ofList (Compact.keep s.length ⟨none, false, 0⟩ s)

end Folio.Style
