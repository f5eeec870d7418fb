import Folio.Path
import Folio.Route

/-!
# Site layout

Where the sources and the output of a site lie. A logical path is the public path of an output
file; `logicalPath` and `outputFile` go from one to the other.
-/

namespace Folio

structure Layout where
  source : Path
  output : Path
  deriving DecidableEq, Repr

namespace Layout

def views (l : Layout) : Path := l.source.child "views"
def assets (l : Layout) : Path := l.source.child "assets"
def scripts (l : Layout) : Path := l.assets.child "js"
def styles (l : Layout) : Path := l.assets.child "css"
def images (l : Layout) : Path := l.assets.child "img"
def vendor (l : Layout) : Path := l.source.child "vendor"

def outputAssets (l : Layout) : Path := l.output.child "assets"
def outputScripts (l : Layout) : Path := l.outputAssets.child "js"
def outputStyles (l : Layout) : Path := l.outputAssets.child "css"
def outputImages (l : Layout) : Path := l.outputAssets.child "img"
def outputVendor (l : Layout) : Path := l.output.child "vendor"

/-- The public path of a file in the output; `none` if it lies elsewhere. -/
def logicalPath (l : Layout) (file : Path) : Option String :=
  (file.below? l.output).map fun segments => "/" ++ Written.text ⟨.relative, segments⟩

/-- The output file of a public path. -/
def outputFile (l : Layout) (path : String) : Path :=
  l.output.append (pathSegments (String.ofList (Text.trimStart (· == '/') path.toList)))

/-- The page file of a template below the views. -/
def pageFile (l : Layout) (template : List String) : Path :=
  (l.output.append template.dropLast).child (View.pageName (template.getLast?.getD ""))

end Layout

end Folio
