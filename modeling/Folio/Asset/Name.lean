import Folio.Text.Case

/-!
# Asset names

A source names an asset by a short name such as `logo.svg`. `logicalPath` maps it to the path under
which the asset is published, in the directory of its category; absolute names and names of no
category stand for themselves.
-/

namespace Folio.Asset

open Text

inductive Category
  | image
  | script
  | stylesheet
  deriving DecidableEq, Repr

namespace Category

def directory : Category → String
  | image => "/assets/img"
  | script => "/assets/js"
  | stylesheet => "/assets/css"

def name : Category → String
  | image => "image"
  | script => "script"
  | stylesheet => "stylesheet"

def ofName? (name : String) : Option Category :=
  [image, script, stylesheet].find? (·.name == name)

end Category

def imageExtensions : List String :=
  [".png", ".jpg", ".jpeg", ".gif", ".svg", ".webp", ".ico"]

/-- Whether a text ends in another. -/
def endsWith (s suffix : String) : Bool :=
  suffix.toList.isSuffixOf s.toList

def endsWithAny (s : String) (suffixes : List String) : Bool :=
  suffixes.any (endsWith s)

/-- The category that a name's extension tells, whatever its case. -/
def categoryOf (name : String) : Option Category :=
  let name := lower name
  if endsWithAny name imageExtensions then some .image
  else if endsWith name ".css" then some .stylesheet
  else if endsWith name ".js" then some .script
  else none

/-- The published path that a name stands for. -/
def logicalPath (name : String) (category : Option Category) : String :=
  if ['/'].isPrefixOf name.toList then name
  else
    match category.or (categoryOf name) with
    | none => name
    | some c => c.directory ++ "/" ++ name

/-- The published path of a name in a category that is given by its own name; an empty one leaves
the category to the extension. `none` if the category is unknown and would be needed. -/
def logicalPathIn (name category : String) : Option String :=
  if category = "" ∨ ['/'].isPrefixOf name.toList then some (logicalPath name none)
  else (Category.ofName? category).map fun c => logicalPath name (some c)

end Folio.Asset
