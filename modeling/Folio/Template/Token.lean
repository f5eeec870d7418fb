import Folio.Decimal
import Folio.Fault

/-!
# Template tokens

A page template is text with marks: prints between double braces, tags between braces with percent
signs, and comments. Its tokens are the text and what stands inside the marks, each with its line.
The last token is the end of the template, or one that could not be read.
-/

namespace Folio.Template

/-- What no page can be made of, though no source is told to be at fault. -/
inductive Crash
  /-- A function of asset names, or a tag that loads a template, was given something else than
  text. -/
  | nameNotText
  /-- Conditionals lie too deep inside each other. -/
  | deepConditionals
  /-- A text holds half of a character. -/
  | halfCharacter
  /-- A number with a point is written in digits of another script. -/
  | foreignDigits
  deriving DecidableEq, Repr

def Crash.message : Crash → String
  | nameNotText => "a name has to be text"
  | deepConditionals => "conditionals lie too deep inside each other"
  | halfCharacter => "a text holds half of a character"
  | foreignDigits => "a number is written in digits of another script"

/-- What is wrong with a template that is being read, with as much of its place as is known. -/
inductive Defect
  | onLine (cause : Cause) (line : Nat)
  /-- On a line, but it is not told of which template. -/
  | onSomeLine (cause : Cause) (line : Nat)
  | anywhere (cause : Cause)
  | crash (c : Crash)
  deriving DecidableEq, Repr

inductive TokenKind
  | text (s : String)
  | printBegin
  | printEnd
  | tagBegin
  | tagEnd
  | name (s : String)
  | string (s : String)
  | integer (n : Nat)
  | real (x : Real)
  | symbol (s : String)
  | finish
  | broken (d : Defect)
  deriving DecidableEq, Repr

structure Token where
  kind : TokenKind
  line : Nat
  deriving DecidableEq, Repr

namespace TokenKind

/-- How a message names a token. -/
def describe : TokenKind → String
  | text _ => "template data / text"
  | printBegin => "begin of print statement"
  | printEnd => "end of print statement"
  | tagBegin => "begin of statement block"
  | tagEnd => "end of statement block"
  | name s => s
  | string _ => "string"
  | integer _ => "integer"
  | real _ => "float"
  | symbol s => s
  | finish | broken _ => "end of template"

end TokenKind

/-- The defect of a token that does not fit. -/
def Token.refuse (t : Token) (cause : Cause) : Defect :=
  match t.kind with
  | .broken d => d
  | _ => .onLine cause t.line

/-- The token that some tokens begin with. -/
def firstToken : List Token → Token
  | [] => ⟨.finish, 1⟩
  | t :: _ => t

end Folio.Template
