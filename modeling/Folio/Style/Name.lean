import Folio.Path

/-!
# Names of styles and other assets

A partial begins with an underscore and has no output of its own. A stylesheet is published under
its name with another extension.
-/

namespace Folio

/-- Whether a segment marks what is below it as for inclusion only. -/
def isUnderscored (segment : String) : Bool :=
  ['_'].isPrefixOf segment.toList

namespace Style

/-- Whether a stylesheet is only for inclusion, by its own name. -/
def isPartial (name : String) : Bool :=
  isUnderscored name

/-- The name of the published stylesheet. -/
def outputName (name : String) : String :=
  Name.stem name ++ ".css"

end Style

namespace Asset

/-- Whether any segment of a path below an asset directory marks it as for inclusion only. -/
def isPartial (segments : List String) : Bool :=
  segments.any isUnderscored

end Asset

end Folio
