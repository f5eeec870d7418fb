import Folio.Style.Expression
import Folio.Style.Problem

/-!
# Values of stylesheets

What an expression comes to. `Value.render` prints a value, expanded or compact, and `operate` joins
two of them: numbers and comparisons are computed, all else becomes text.
-/

namespace Folio.Style

open Text

mutual

inductive Value
  | null
  | truth (b : Bool)
  | number (q : Quantity)
  | color (c : Color)
  | text (s : String)
  | quoted (s : String)
  | list (separator : Separator) (items : Values)
  | bracketed (v : Value)
  /-- A quotient that stays as it is written. -/
  | quotient (a b : Value)
  deriving DecidableEq, Repr

inductive Values
  | done
  | more (v : Value) (rest : Values)
  deriving DecidableEq, Repr

end

def Values.toList : Values → List Value
  | .done => []
  | .more v rest => v :: rest.toList

def Values.ofList : List Value → Values
  | [] => .done
  | v :: rest => .more v (ofList rest)

/-- A text as it is printed: a line end becomes a space together with the blanks after it. -/
def onOneLine (afterEnd : Bool) : List Char → List Char
  | [] => []
  | c :: r =>
    if c = '\n' then ' ' :: onOneLine true r
    else if afterEnd && isSpace c then onOneLine true r
    else c :: onOneLine false r

namespace Value

/-! ## Printing -/

/-- Whether a list leaves the value out. -/
def isLeftOut : Value → Bool
  | null | list _ .done => true
  | _ => false

/-- Whether a declaration of the value is left out. -/
def isInvisible : Value → Bool
  | text s => s.isEmpty
  | v => v.isLeftOut

/-- What stands between the items of a list. -/
def gap (compactly : Bool) : Separator → String
  | .space => " "
  | .comma => if compactly then "," else ", "

end Value

mutual

def Value.render (compactly : Bool) : Value → String
  | .null => "null"
  | .truth b => if b then "true" else "false"
  | .number q => q.text compactly
  | .color c => c.text compactly
  | .text s => String.ofList (onOneLine false s.toList)
  | .quoted s => inQuotes '"' s
  | .list separator items => (Value.gap compactly separator).intercalate (items.texts compactly)
  | .bracketed v => "[" ++ v.render compactly ++ "]"
  | .quotient a b => a.render compactly ++ "/" ++ b.render compactly

/-- The texts of the items that a list does not leave out. -/
def Values.texts (compactly : Bool) : Values → List String
  | .done => []
  | .more v rest =>
    if v.isLeftOut then rest.texts compactly
    else v.render compactly :: rest.texts compactly

end

namespace Value

/-- What a value is inside a text: a string without its quotes. -/
def bareText (compactly : Bool) : Value → String
  | quoted s | text s => s
  | v => v.render compactly

def isTrue : Value → Bool
  | null | truth false => false
  | _ => true

/-- A value that comes from a variable. -/
def recalled : Value → Value
  | number q => number { q with shortened := true }
  | color c => color { c with kept := false }
  | v => v

/-- A quantity that no stylesheet may hold. -/
def badQuantity? : Value → Option Quantity
  | number q => if q.isPlain then none else some q
  | _ => none

/-! ## Operations -/

/-- Whether two values are the same. Quotes do not matter. -/
def agrees : Value → Value → Bool
  | number a, number b => a.agrees b
  | color a, color b => a.number == b.number && a.cover == b.cover
  | text a, text b | text a, quoted b | quoted a, text b | quoted a, quoted b => a == b
  | a, b => a == b

/-- The order of two numbers. -/
def order (a b : Quantity) : Except Problem (Option Ordering) :=
  match b.valueIn a with
  | some y => .ok (a.value.order? y)
  | none => .error (.unlikeUnits b.unitText a.unitText)

def badOperation (operator : Operator) (a b : Value) : Problem :=
  if a = null ∨ b = null then .nullOperation (a.render false) operator.name (b.render false)
  else .badOperation (a.render false) operator.name (b.render false)

/-- Compares two values by their order. -/
def compareBy (operator : Operator) (test : Ordering → Bool) (a b : Value) : Except Problem Value :=
  match a, b with
  | number x, number y => (order x y).map fun o => truth (o.any test)
  | _, _ => .error (badOperation operator a b)

def computeNumbers (operator : Operator) (x y : Quantity) : Except Problem Value :=
  let unlike : Problem := .unlikeUnits y.unitText x.unitText
  let combined (f : Real → Real → Real) : Except Problem Value :=
    ((x.combine f y).map number).elim (.error unlike) .ok
  match operator with
  | .plus => combined Real.sum
  | .minus => combined fun a b => a.sum b.negate
  | .times => .ok (number (x.product y))
  | .quotient =>
    if y.value.isZero then .ok (text (if x.value.isZero then "NaN" else "Infinity"))
    else .ok (number (x.quotient y))
  | .remainder => if y.value.isZero then .ok (text "NaN") else combined Real.remainder
  | _ => .error (badOperation operator (number x) (number y))

/-- Two values joined into a text, in quotes if the first string of them is. -/
def join (compactly : Bool) (a b : Value) : Value :=
  let s := a.bareText compactly ++ b.bareText compactly
  match a, b with
  | quoted _, _ => quoted s
  | text _, _ => text s
  | _, quoted _ => quoted s
  | _, _ => text s

/-- An operation on values. -/
def operate (compactly : Bool) (operator : Operator) (a b : Value) : Except Problem Value :=
  match operator with
  | .and => .ok (if a.isTrue then b else a)
  | .or => .ok (if a.isTrue then a else b)
  | .equal => .ok (truth (a.agrees b))
  | .unequal => .ok (truth (!a.agrees b))
  | .atLeast => compareBy operator (· != .lt) a b
  | .above => compareBy operator (· == .gt) a b
  | .atMost => compareBy operator (· != .gt) a b
  | .below => compareBy operator (· == .lt) a b
  | arithmetic =>
    match a, b with
    | number x, number y => computeNumbers arithmetic x y
    | null, _ | _, null => .error (badOperation arithmetic a b)
    | _, _ =>
      match arithmetic with
      | .plus => .ok (join compactly a b)
      | .minus => .ok (text (a.render compactly ++ "-" ++ b.render compactly))
      | .quotient => .ok (text (a.render compactly ++ "/" ++ b.render compactly))
      | _ => .error (badOperation arithmetic a b)

/-- A value behind a sign. -/
def sign (compactly : Bool) (s : Sign) (v : Value) : Value :=
  match s, v with
  | .not, v => truth (!v.isTrue)
  | .plus, number q => number q
  | .minus, number q => number q.negate
  | .slash, number q => text ("/" ++ q.text compactly)
  | s, v =>
    let mark := match s with | .plus => "+" | .minus => "-" | .slash => "/" | .not => "not "
    let name := match v with
      | color c => if c.written = "" then c.text compactly else c.written
      | null => ""
      | v => v.render compactly
    text (mark ++ name)

end Value

end Folio.Style
