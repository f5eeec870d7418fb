import Folio.Build.State
import Folio.Template.Render

/-!
# Pages

Each page template is rendered and written to its page file. A page sees the build mode, the
routes and the functions of assets by name; a template with a fault does not keep the others from
being rendered.
-/

namespace Folio.Build

open Template

/-- Gives names values in turn; the last one counts. -/
def withValues (values : Variables) (bindings : Variables) : Variables :=
  values.foldl (fun vs v => Table.put v.1 v.2 vs) bindings

/-- The names that a page sees, except for those of its own. -/
def State.siteVariables (s : State) : Variables :=
  let flags := Environment.all.map fun e => (e.name, Value.truth (e == s.environment))
  let routes := s.routes.map fun r => (r.1, Value.text r.2)
  withValues (("environment", .text s.environment.name) :: routes
    ++ [("routes", .table (.ofList routes)), ("squish", .function .squish)]) flags

/-- The names that the page of a template sees. -/
def State.pageVariables (s : State) (template : String) (more : Variables) : Variables :=
  withValues ([("asset_path", .function .assetPath), ("inline_asset", .function .inlineAsset),
    ("canonical_path", .text (View.publicPath template))] ++ more) s.siteVariables

/-- What templates see of the site. -/
def State.templateSite (s : State) : Site :=
  ⟨s.files, s.layout.views, s.store.get?, s.layout.outputFile⟩

/-- A rendered page and the files that it depends on: templates in the order of loading, then
output files of assets in the order of lookup. -/
structure Page where
  html : String
  dependencies : List String
  deriving DecidableEq, Repr

/-- Renders a root template and records what it depends on. -/
def compilePage (root : Path) (more : Variables) : Build (Except Fault Page) := do
  let root ← realPathOf root
  let s ← get
  let segments ← belowOf root s.layout.views
  let name := Written.text ⟨.relative, segments⟩
  match render s.templateSite (s.pageVariables name more) name root.text with
  | .error (.crash c) => throw (.page c)
  | .error (.fault f) => return .error f
  | .error (.cause c) => return .error ⟨c, root.text, 0, 0⟩
  | .ok rendered =>
    let templates := (rendered.loads.filter fun p => s.files.resolve p ≠ root).map Path.text
    let names := s.named rendered.lookups
    modify (·.made .page root templates names)
    return .ok ⟨rendered.html, templates ++ s.lookedUp names⟩

/-- The page templates of a site, with links followed, in order. -/
def State.roots (s : State) : List Path :=
  (s.templates.filter fun p =>
    (p.below? s.layout.views).any fun segments => View.isPage (joinSegments segments)).map
      s.files.resolve

/-- Renders and writes the page of a root template. -/
def addPage (root : Path) (r : StageResult) : Build StageResult := do
  match ← compilePage root [] with
  | .error f => failWith r f
  | .ok page =>
    let s ← get
    let segments ← belowOf root s.layout.views
    let file := s.layout.pageFile segments
    writeFile file (Text.encode page.html)
    let path ← logicalPathOf file
    noteCompiled path
    return r.addOutput path file

/-- Renders and writes the pages of some root templates. -/
def compilePages : List Path → StageResult → Build StageResult
  | [], r => pure r
  | root :: rest, r => do compilePages rest (← addPage root r)

end Folio.Build
