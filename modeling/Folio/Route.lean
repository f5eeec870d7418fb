import Folio.Asset.Name
import Folio.Path
import Folio.Table
import Folio.Text.Blank
import Folio.Text.Styled

/-!
# Routes

Which templates become pages, the public path of each page and the helper that names it. A route
table maps helpers to public paths; of two templates with one helper the later wins and the table's
notes tell of it.
-/

namespace Folio

open Text

/-! ## Template paths -/

namespace View

/-- Extensions of page templates. -/
def extensions : List String :=
  [".html", ".jinja", ".j2"]

/-- A name without the first of the template extensions that it ends in. -/
def baseName (name : String) : String :=
  match extensions.find? (Asset.endsWith (lower name)) with
  | some extension => String.ofList (name.toList.take (name.length - extension.length))
  | none => name

/-- Whether a template is only for inclusion: below an underscore or a layouts directory, or marked
by the end of its stem. -/
def isPartial (path : String) : Bool :=
  let w := Written.ofText path
  w.segments.any (['_'].isPrefixOf ·.toList)
    || w.segments.dropLast.contains "layouts"
    || Asset.endsWithAny (lower (Name.stem w.name)) [".partial", ".layout"]

/-- Whether a path below the views becomes a page. -/
def isPage (path : String) : Bool :=
  Asset.endsWithAny (lower path) extensions && !isPartial path

/-- The public path of a page: its template's path without extension, and the directory itself for
an index. -/
def publicPath (path : String) : String :=
  let w := Written.ofText (String.ofList (trimStart (· == '/') path.toList))
  let stem := baseName w.name
  let stem := if stem = "index" then "" else stem
  let parent := w.parent.text
  (if parent = "." then "" else "/" ++ parent) ++ "/" ++ stem

/-- The name of the page file for a template's file name. -/
def pageName (name : String) : String :=
  let base := baseName name
  if Asset.endsWith (lower base) ".html" then base else base ++ ".html"

end View

/-! ## Helpers and entries -/

namespace Route

/-- The helper of the site's root. -/
def rootHelper : String := "root_path"

/-- The helper that names a public path. -/
def helperName (path : String) : String :=
  let segments := ((splitOn '/' path.toList).filter (· ≠ []))
  if segments.isEmpty then rootHelper
  else lower (String.ofList (joinWith '_' (segments ++ ["path".toList])))

structure Entry where
  helper : String
  path : String
  /-- The template, as it is named in messages. -/
  source : String
  deriving DecidableEq, Repr

/-- The entry of a template path; `none` if it becomes no page. -/
def entryFor (path source : String) : Option Entry :=
  if View.isPage path then
    let publicPath := View.publicPath path
    some ⟨helperName publicPath, publicPath, if source = "" then path else source⟩
  else none

/-! ## The table -/

abbrev Table := List (String × String)

/-- A table in the making: helpers with paths, helpers with the last source, and the notes on
helpers that were taken over, newest first. -/
structure Draft where
  table : Table
  sources : List (String × String)
  notes : List String
  deriving DecidableEq, Repr

namespace Draft

def empty : Draft :=
  ⟨[(rootHelper, "/")], [], []⟩

def overrideNote (e : Entry) (previous : String) : String :=
  s!"Route helper {e.helper} from {e.source} overrides {previous}"

def add (d : Draft) (e : Entry) : Draft :=
  ⟨Table.put e.helper e.path d.table, Table.put e.helper e.source d.sources,
    ((d.sources.lookup e.helper).map (overrideNote e)).toList ++ d.notes⟩

end Draft

/-- The table of some entries and the notes on overrides, in order. -/
def tableOf (entries : List Entry) : Table × List String :=
  let d := entries.foldl Draft.add .empty
  (d.table, d.notes.reverse)

/-! ## Printing -/

/-- A text filled with spaces up to a width. -/
def padded (width : Nat) (s : String) : String :=
  s ++ String.ofList (List.replicate (width - s.length) ' ')

/-- One line for each helper, aligned on the longest. -/
def formatTable (table : Table) : List String :=
  let width := (table.map (·.1.length)).foldl max 0
  table.map fun (helper, path) =>
    styled "34" (padded width helper) ++ " " ++ styled "2" "=>" ++ " " ++ styled "33" path

end Route

end Folio
