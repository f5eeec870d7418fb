import Folio.Fault
import Folio.Text.Lines
import Folio.Text.Number

/-!
# Reports of a stylesheet compiler

A compiler reports an error as a text of several lines that may name a place: `on line 3:10 of
site.scss`. `Fault.ofReport` reads the place and keeps the first line as the message.
-/

namespace Folio

open Text

namespace Style

/-- A text without a given beginning; `none` if it begins otherwise. -/
def after? (beginning : String) (s : List Char) : Option (List Char) :=
  if beginning.toList.isPrefixOf s then some (s.drop beginning.length) else none

structure Place where
  line : Nat
  column : Nat
  file : Option String
  deriving DecidableEq, Repr

/-- The place that a text begins with. -/
def placeHere (s : List Char) : Option Place :=
  (after? "on line " s).bind fun s =>
  (leadingNumber s).map fun (line, s) =>
    let (column, s) := ((after? ":" s).bind leadingNumber).getD (0, s)
    let file := ((after? " of " s).map fun s => s.takeWhile (!isBlank ·)).filter (!·.isEmpty)
    ⟨line, column, file.map String.ofList⟩

/-- The first place that a text names. -/
def placeIn : List Char → Option Place
  | [] => none
  | c :: r => (placeHere (c :: r)).or (placeIn r)

end Style

open Style in
/-- A reported error as a fault of the file that the report names, or else of `file`. -/
def Fault.ofReport (report file : String) : Fault :=
  let text := trimBy isBlank report.toList
  let place := (placeIn text).getD ⟨0, 0, none⟩
  let message :=
    if text.isEmpty then "Invalid stylesheet"
    else String.ofList (text.takeWhile (!isLineBreak ·))
  ⟨.reported message, (place.file.filter (· ≠ "stdin")).getD file, place.line, place.column⟩

end Folio
