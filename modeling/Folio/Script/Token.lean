import Folio.Text.Letter

/-!
# Script tokens

A token is a kind, its text and the offset of its first character. Blanks and comments are trivia;
`significant` drops them and notes on the next token whether they held a line break.
-/

namespace Folio.Script

inductive Kind
  | blank
  | comment
  | regex
  | doubleQuoted
  | singleQuoted
  /-- A back quote, or text between back quotes. -/
  | templateText
  /-- The opening or closing mark of a template substitution. -/
  | substitution
  | number
  | punctuation
  | operator
  /-- `var`, `let`, `const`, `with`, `function`, `class`. -/
  | declaration
  | keyword
  /-- A name without a meaning of its own in the language. -/
  | plainName
  | otherName
  deriving DecidableEq, Repr

namespace Kind

def isTrivia : Kind → Bool
  | blank | comment => true
  | _ => false

def isString : Kind → Bool
  | regex | doubleQuoted | singleQuoted | templateText | substitution => true
  | _ => false

def isKeyword : Kind → Bool
  | declaration | keyword => true
  | _ => false

end Kind

structure Token where
  kind : Kind
  text : String
  start : Nat
  /-- Whether a line break lies between the previous significant token and this one. -/
  afterBreak : Bool
  deriving DecidableEq, Repr

namespace Token

def stop (t : Token) : Nat :=
  t.start + t.text.length

def isPunctuation (t : Token) (text : String) : Bool :=
  t.kind == .punctuation && t.text == text

/-- The closing bracket of an opening one. -/
def closerOf (text : String) : Option String :=
  if text = "(" then some ")"
  else if text = "[" then some "]"
  else if text = "\x7b" then some "\x7d"
  else none

def isCloserText (text : String) : Bool :=
  text == ")" || text == "]" || text == "\x7d"

/-- An opening bracket outside strings. -/
def opens (t : Token) : Bool :=
  !t.kind.isString && (closerOf t.text).isSome

/-- A closing bracket outside strings. -/
def closes (t : Token) : Bool :=
  !t.kind.isString && isCloserText t.text

end Token

/-- The tokens that are not trivia; `broken` tells whether the trivia passed so far hold a line
break. -/
def significantFrom (broken : Bool) : List Token → List Token
  | [] => []
  | t :: r =>
    if t.kind.isTrivia then significantFrom (broken || t.text.toList.contains '\n') r
    else { t with afterBreak := broken } :: significantFrom false r

def significant : List Token → List Token :=
  significantFrom false

end Folio.Script
