import Folio.Style.Color
import Folio.Style.Quantity
import Folio.Text.Location

/-!
# Expressions of stylesheets

What a value is written as. A slash between numbers may be meant as it stands: such a quotient is
`literal` and only computed where it is `forced`.
-/

namespace Folio.Style

open Text

inductive Separator
  | space
  | comma
  deriving DecidableEq, Repr

inductive Sign
  | plus
  | minus
  | slash
  | not
  deriving DecidableEq, Repr

inductive Operator
  | and
  | or
  | equal
  | unequal
  | atLeast
  | above
  | atMost
  | below
  | plus
  | minus
  | times
  | quotient
  | remainder
  deriving DecidableEq, Repr

def Operator.name : Operator → String
  | and => "and"
  | or => "or"
  | equal => "eq"
  | unequal => "neq"
  | atLeast => "gte"
  | above => "gt"
  | atMost => "lte"
  | below => "lt"
  | plus => "plus"
  | minus => "minus"
  | times => "times"
  | quotient => "div"
  | remainder => "mod"

mutual

inductive Expression
  | text (s : String)
  | quoted (s : String)
  | number (q : Quantity)
  | color (c : Color)
  | truth (b : Bool)
  | null
  | variable (name : String) (at_ : Location)
  | list (separator : Separator) (items : Expressions)
  | bracketed (e : Expression)
  | grouped (e : Expression)
  | signed (sign : Sign) (e : Expression)
  | operation (operator : Operator) (literal : Bool) (at_ : Location) (a b : Expression)
  | call (name : String) (at_ : Location) (arguments : Expressions)
  deriving DecidableEq, Repr

/-- Expressions in a row; as arguments of a call they may have names. -/
inductive Expressions
  | done
  | more (name : Option String) (e : Expression) (rest : Expressions)
  deriving DecidableEq, Repr

end

def Expressions.ofList : List Expression → Expressions
  | [] => .done
  | e :: rest => .more none e (ofList rest)

namespace Expression

/-- Whether a quotient of it may be meant as it stands. -/
def isLiteral : Expression → Bool
  | number _ => true
  | color c => c.kept
  | signed _ e => e.isLiteral
  | operation _ literal _ _ _ => literal
  | _ => false

def isOperation : Expression → Bool
  | operation _ _ _ _ _ => true
  | grouped e => e.isOperation
  | _ => false

/-- The expression where its value counts and not how it is written. -/
def forced : Expression → Expression
  | color c => color { c with kept := false }
  | grouped e => grouped e.forced
  | operation operator _ here a b => operation operator false here a.forced b.forced
  | e => e

/-- An operation on two operands, forced if one of them is an operation itself. -/
def operate (operator : Operator) (here : Location) (a b : Expression) : Expression :=
  if a.isOperation || b.isOperation then operation operator false here a.forced b.forced
  else operation operator (operator == .quotient && a.isLiteral && b.isLiteral) here a b

end Expression

/-- Expressions whose values count and not how they are written. -/
def Expressions.forced : Expressions → Expressions
  | .done => .done
  | .more name e rest => .more name e.forced rest.forced

end Folio.Style
