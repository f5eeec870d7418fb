import Folio.Build.Project

/-!
# Rebuilding after changes

`handle` maps a batch of changed files onto what has to be made again: the changed sources, the
templates that depend on a changed one, and then, round after round, whatever looked up an asset
that was published anew. No script or stylesheet is compiled twice in one batch by the rounds.
-/

namespace Folio.Build

inductive ChangeKind
  | added
  | modified
  | deleted
  deriving DecidableEq, Repr

/-- A changed file, named by a path text. -/
structure Change where
  kind : ChangeKind
  path : String
  deriving DecidableEq, Repr

/-! ## Sorting the changes out -/

/-- A kind of change with the path of what it changes, without links. -/
abbrev Located := ChangeKind × Path

/-- The changes in the order of their path texts, each with its path. -/
def locateChanges (changes : List Change) : Build (List Located) := do
  let base := (← get).base
  (sortBy (fun a b => !decide (b.path < a.path)) changes).mapM fun c =>
    return (c.kind, ← realPathOf (Path.ofText base c.path))

/-- What a batch changes. -/
structure Batch where
  templates : List (ChangeKind × Path)
  scripts : List Path
  images : List Path
  styles : Bool
  vendor : Bool
  deriving DecidableEq, Repr

namespace Batch

def empty : Batch := ⟨[], [], [], false, false⟩

/-- Adds the change of a path. -/
def add (l : Layout) (b : Batch) (kind : ChangeKind) (p : Path) : Batch :=
  let extension := Text.lower (Name.extension p.name)
  if p.isBelow l.views then
    if Asset.endsWithAny (Text.lower p.name) View.extensions then
      { b with templates := b.templates ++ [(kind, p)] }
    else b
  else if p.isBelow l.scripts then
    if kind ≠ .deleted ∧ scriptExtensions.contains extension
        ∧ !((p.below? l.scripts).any Asset.isPartial) then
      { b with scripts := b.scripts ++ [p] }
    else b
  else if p.isBelow l.styles then { b with styles := true }
  else if p.isBelow l.images then
    if kind ≠ .deleted ∧ Asset.imageExtensions.contains extension then
      { b with images := b.images ++ [p] }
    else b
  else if p.isBelow l.vendor then { b with vendor := true }
  else b

/-- The batch of some changes in order. -/
def ofChanges (l : Layout) (changes : List Located) : Batch :=
  changes.foldl (fun b c => b.add l c.1 c.2) empty

end Batch

/-! ## Affected templates -/

/-- Adds the elements of a list that are not there yet. -/
def union (a b : List String) : List String :=
  a ++ (Dependencies.distinct b).filter (!a.contains ·)

/-- The roots that the changes of some templates affect. A deleted root is forgotten. -/
def affectedRoots : List (ChangeKind × Path) → List String → Build (List String)
  | [], roots => pure roots
  | (kind, p) :: rest, roots => do
    let s ← get
    let roots := union roots (s.dependencies.dependentsOf s.base p.text)
    if kind = .deleted then
      modify fun s => { s with dependencies := s.dependencies.forget s.base p.text }
      affectedRoots rest (roots.filter (· ≠ p.text))
    else
      let segments ← belowOf p s.layout.views
      affectedRoots rest
        (if View.isPage (Written.text ⟨.relative, segments⟩) then union roots [p.text] else roots)

/-! ## Rounds -/

/-- The paths of some names that are files, in order. -/
def State.existing (s : State) (names : List String) : List Path :=
  Path.sort ((names.map (Path.ofText s.base)).filter s.files.isFile)

/-- The sources that depend on one of some files. A name with two slashes in front is none: it lies
below no directory of a site. -/
def State.dependents (s : State) (files : List Path) : List String :=
  (files.foldl (fun found p => union found (s.dependencies.dependentsOf s.base p.text)) []).filter
    fun name => PathRoot.ofText name.toList ≠ .doubled

/-- Compiles the scripts and stylesheets among some sources. -/
def recompile (sources : List String) : Build StageResult := do
  let s ← get
  let stale := s.existing sources
  let scripts ← compileScripts (some (stale.filter (·.isBelow s.layout.scripts)))
  let styles ← compileStyles (some (stale.filter (·.isBelow s.layout.styles)))
  return scripts.append styles

/-- What the rounds have come to: the sources that are done, the pages to render, the result. -/
structure Rounds where
  done : List String
  roots : List String
  result : StageResult
  deriving DecidableEq, Repr

/-- Recompiles what looked up the files published in the last round, and answers the files that are
published anew. -/
def round (pending : List Path) (r : Rounds) : Build (List Path × Rounds) := do
  let s ← get
  let dependents := s.dependents pending
  let pages := dependents.filter fun d => (Path.ofText s.base d).isBelow s.layout.views
  let roots := union r.roots pages
  let stale := dependents.filter fun d => !r.done.contains d && !roots.contains d
  let made ← recompile stale
  return (made.outputFiles, ⟨union r.done dependents, roots, r.result.append made⟩)

/-- Rounds until one publishes nothing. Each but the last adds a source to those done, under its
name in the index or in plain form, so twice the number of sources bounds them. -/
def rounds : Nat → List Path → Rounds → Build Rounds
  | 0, _, r | _, [], r => pure r
  | bound + 1, pending, r => do
    let (pending, r) ← round pending r
    rounds bound pending r

/-! ## Batches -/

/-- What a batch asks for: scripts to compile, whether to compile the stylesheets, root templates
to render, and what came of the rest. -/
structure Plan where
  scripts : List Path
  styles : Bool
  roots : List String
  result : StageResult
  deriving DecidableEq, Repr

/-- Publishes vendor files anew if a batch changes one; links need no more in development. -/
def Batch.publishVendor (b : Batch) : Build StageResult := do
  if b.vendor && (← get).production then Build.publishVendor else return .empty

/-- Makes the route table anew if a batch changes a template, and answers whether it changed. -/
def Batch.rebuildRoutes (b : Batch) : Build Bool := do
  if b.templates.isEmpty then return false
  let changed ← Build.rebuildRoutes
  if changed then note "Route table changed, recompiling all scripts and pages"
  return changed

/-- Publishes the images and vendor files of a batch and plans the rest. -/
def plan (changes : List Change) : Build Plan := do
  let batch := Batch.ofChanges (← get).layout (← locateChanges changes)
  let images ← publishImages (some batch.images)
  let vendor ← batch.publishVendor
  let routesChanged ← batch.rebuildRoutes
  let s ← get
  let roots ← affectedRoots batch.templates
    (if routesChanged then Dependencies.distinct (s.roots.map Path.text) else [])
  return ⟨if routesChanged then s.scripts else batch.scripts, batch.styles, roots,
    images.append vendor⟩

/-- Compiles the scripts and stylesheets that a batch asks for. -/
def Plan.compile (p : Plan) : Build Rounds := do
  let scripts ← compileScripts (some p.scripts)
  let styles ← compileStyles (if p.styles then none else some [])
  let s ← get
  let sources := p.scripts ++ if p.styles then s.styles false else []
  let done := Dependencies.distinct (sources.map fun source => normalize s.base source.text)
  return ⟨done, p.roots, (p.result.append scripts).append styles⟩

/-- Makes again what a batch of changes affects, pages apart. -/
def remake (changes : List Change) : Build Rounds := do
  let r ← (← plan changes).compile
  rounds (2 * (← get).dependencies.edges.length + 1) r.result.outputFiles r

/-- Makes again what a batch of changes affects. -/
def handle (changes : List Change) : Build StageResult := do
  let r ← remake changes
  compilePages ((← get).existing r.roots) r.result

/-! ## Watching -/

/-- Handles a batch while watching: a problem with a file ends only the batch. -/
def handleWatched (changes : List Change) : Build Unit := fun s =>
  match handle changes s with
  | .ok result s =>
    if result.ok then .ok () s
    else note s!"Rebuild finished with {result.failures.length} error(s)" s
  | .error (.file problem path) s => note ("Rebuild failed: " ++ fileMessage problem path) s
  | .error abort s => .error abort s

/-- Tells what is watched. -/
def noteWatching : Build Unit := do
  let s ← get
  note ("Watching " ++ s.layout.source.text ++ " for changes...")

end Folio.Build
