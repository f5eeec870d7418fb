import Folio.Asset.Name
import Folio.Text.Blank

/-!
# Functions of stylesheets

A stylesheet may ask for the published path of an asset, bare or as a `url(…)`.
-/

namespace Folio.Style

open Text

inductive Function
  | assetPath
  | assetUrl
  deriving DecidableEq, Repr

namespace Function

def name : Function → String
  | assetPath => "asset_path"
  | assetUrl => "asset_url"

def all : List Function :=
  [assetPath, assetUrl]

def ofName? (name : String) : Option Function :=
  all.find? (·.name == name)

/-- An argument without blanks around it and without the quotes inside those. -/
def unquote (argument : String) : String :=
  String.ofList (trimBy (fun c => c == '"' || c == '\'') (trimBy isBlank argument.toList))

/-- The published path that an argument asks for. -/
def lookup (argument : String) : String :=
  Asset.logicalPath (unquote argument) none

/-- The text in place of a call; `resolve` says where a path is published. -/
def apply (resolve : String → String) (f : Function) (argument : String) : String :=
  match f with
  | assetPath => resolve (lookup argument)
  | assetUrl => "url(\"" ++ resolve (lookup argument) ++ "\")"

end Function

end Folio.Style
