import Folio.Decimal
import Folio.Text.Printable

/-!
# Scalars

Single values as settings hold them and messages show them. `Scalar.shown` is the value as a
message holds it, `Scalar.quoted` tells a text from other values by its quotes.
-/

namespace Folio

open Text

inductive Scalar
  | text (s : String)
  | integer (n : Int)
  | real (x : Real)
  | truth (b : Bool)
  | none
  deriving DecidableEq, Repr

namespace Scalar

/-- Whether a value counts as given: it is neither empty, zero, false nor missing. -/
def isTrue : Scalar → Bool
  | text s => s ≠ ""
  | integer n => n ≠ 0
  | real x => !x.isZero
  | truth b => b
  | none => false

def shown : Scalar → String
  | text s => s
  | integer n => toString n
  | real x => x.text
  | truth true => "True"
  | truth false => "False"
  | none => "None"

def quoted : Scalar → String
  | text s => quoteText s
  | v => v.shown

/-- What is told of a failure that has any number of details: a single one is shown as it is. -/
def failureText : List Scalar → String
  | [] => ""
  | [v] => v.shown
  | vs => "(" ++ ", ".intercalate (vs.map quoted) ++ ")"

/-- A message as a text; `none` if it is none. -/
def asText? : Scalar → Option String
  | text s => some s
  | _ => Option.none

/-- What is told of a failure at a place that may be known only in part. A message that stands
alone has to be a text. -/
def placedText (message file line column : Scalar) : Option String :=
  if !file.isTrue then message.asText?
  else
    let place := if line.isTrue then [file, line, column] else [file]
    some (":".intercalate (place.map shown) ++ ": " ++ message.shown)

end Scalar

end Folio
