import Folio.Style.Lexeme
import Folio.Text.Split

/-!
# Indented stylesheets

A stylesheet may show by indentation alone what lies inside a rule. `unfolded` writes the braces
and semicolons, on the lines that there are.
-/

namespace Folio.Style

open Text

/-- A line that is not blank, its indentation and how many blank lines follow. -/
structure Row where
  indentation : Nat
  text : List Char
  blanks : Nat
  deriving DecidableEq, Repr

/-- The rows of some lines and how many blank lines precede them. -/
def rowsOf : List (List Char) → Nat × List Row
  | [] => (0, [])
  | line :: rest =>
    let (blanks, rows) := rowsOf rest
    let text := trimEnd isSpace (line.dropWhile isSpace)
    if text.isEmpty then (blanks + 1, rows)
    else (0, ⟨(line.takeWhile isSpace).length, text, blanks⟩ :: rows)

/-- Whether a row is a comment, which ends without a sign. -/
def Row.isComment (r : Row) : Bool :=
  begins "//" r.text || begins "/*" r.text

/-- The names of an import in quotes, if they have none. -/
def quotedImport (text : List Char) : List Char :=
  match after? "@import " text with
  | none => text
  | some names =>
    let name (piece : List Char) : List Char :=
      let bare := trimBy isSpace piece
      if begins "\"" bare || begins "'" bare || begins "url(" bare then bare
      else '"' :: bare ++ ['"']
    "@import ".toList ++ List.intercalate [',', ' '] ((splitOn ',' names).map name)

/-- A row with the sign at its end: it opens a brace if the next one lies further inside, and
closes those that the next one lies outside of. -/
def closeRows (opened : List Nat) : List Row → List Char
  | [] => List.replicate opened.length '\x7d'
  | r :: rest =>
    let next := (rest.head?.map (·.indentation)).getD 0
    let indent := List.replicate r.indentation ' '
    let lines := List.replicate (r.blanks + 1) '\n'
    let opens := r.indentation < next && !r.isComment
    let sign := if opens then [' ', '\x7b'] else if r.isComment then [] else [';']
    let opened := if opens then r.indentation :: opened else opened
    let closed := opened.takeWhile (next ≤ ·)
    let braces := if rest.isEmpty then List.replicate opened.length '\x7d'
      else List.replicate closed.length '\x7d'
    let left := if rest.isEmpty then [] else opened.drop closed.length
    indent ++ quotedImport r.text ++ sign ++ (if braces.isEmpty then [] else ' ' :: braces) ++ lines
      ++ closeRows left rest

/-- The text of an indented stylesheet with braces and semicolons. -/
def unfolded (s : String) : String :=
  let (blanks, rows) := rowsOf (splitOn '\n' s.toList)
  String.ofList (List.replicate blanks '\n' ++ closeRows [] rows)

end Folio.Style
