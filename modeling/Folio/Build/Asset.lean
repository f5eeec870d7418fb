import Folio.Build.State
import Folio.Script.Compact
import Folio.Script.Inject
import Folio.Style.Compile
import Folio.Style.Name

/-!
# Assets

The stages that publish scripts, stylesheets, images and vendor files. Scripts and stylesheets are
compiled side by side: each source is first prepared (read, and for a stylesheet compiled) and then
finished (injected, published and recorded), and a `Schedule` says whose turn it is.

A source with a fault of its own leaves no trace but the fault in the result and its line in the
log.
-/

namespace Folio.Build

/-! ## Sources -/

def scriptExtensions : List String := [".js"]

def styleExtensions : List String := [".scss", ".sass", ".css"]

/-- The files below a directory with some extension in any case, without those for inclusion. -/
def sourcesBelow (files : FileTree) (directory : Path) (extensions : List String) : List Path :=
  (files.filesBelow directory).filter fun p =>
    extensions.contains (Text.lower (Name.extension p.name))
      && !((p.below? directory).any Asset.isPartial)

def State.scripts (s : State) : List Path :=
  sourcesBelow s.files s.layout.scripts scriptExtensions

def State.images (s : State) : List Path :=
  sourcesBelow s.files s.layout.images Asset.imageExtensions

/-- The stylesheets below the directory of styles, with or without partials. -/
def State.styles (s : State) (partials : Bool) : List Path :=
  (s.files.filesBelow s.layout.styles).filter fun p =>
    styleExtensions.contains (Name.extension p.name) && (partials || !Style.isPartial p.name)

/-! ## Publishing -/

/-- Removes the file of an earlier physical path unless it is the one in use. -/
def removeEarlier (earlier : Option String) (physical : String) : Build Unit := do
  match earlier with
  | some old =>
    if old ≠ "" ∧ old ≠ physical then removeFile ((← get).layout.outputFile old)
  | none => pure ()

/-- Writes the content of a public path under its physical name and removes the file of an earlier
one. Answers the output file by which dependents know it. -/
def publish (path : String) (content : Bytes) : Build Path := do
  let s ← get
  let physical := s.store.physical path content
  modify (·.published path content)
  writeFile (s.layout.outputFile physical) content
  removeEarlier (s.store.get? path) physical
  noteCompiled path
  return s.layout.outputFile path

/-! ## One source at a time -/

/-- What becomes of a source: its output file, or its fault. -/
abbrev Outcome := Except Fault Path

/-- A kind of source with two steps. A step that finds a fault has done nothing. -/
structure Craft where
  /-- What the first step hands to the second. -/
  Prepared : Type
  prepare : Path → Build (Except Fault Prepared)
  finish : Path → Prepared → Build Outcome

/-- Publishes the text that was made of a source and records what it looked up. -/
def publishText (source : Path) (output : Path) (text : String) (names : Names) :
    Build Outcome := do
  let path ← logicalPathOf output
  let file ← publish path (Text.encode text)
  modify (·.made .asset source [] names)
  return .ok file

/-- Scripts are read, then injected, compacted in production and published. -/
def scriptCraft : Craft where
  Prepared := Bytes
  prepare source := do return .ok (← readFile source)
  finish source content := do
    let s ← get
    match Text.decodeSource content source.text with
    | .error f => return .error f
    | .ok text =>
      match Script.inject s.routes s.store.resolve text with
      | .error d => return .error (d.fault text.toList source.text)
      | .ok injected =>
        let script := if s.production then Script.compact injected.output else injected.output
        let segments ← belowOf source s.layout.scripts
        publishText source (s.layout.outputScripts.append segments) script
          (s.named injected.lookups)

/-- Stylesheets are compiled, then published under their own names. -/
def styleCraft : Craft where
  Prepared := String × Names
  prepare source := do
    let s ← get
    if !s.files.isFile source then throw (.noSheet source)
    match Style.compile s.files s.base s.layout.styles s.store.resolve s.production source with
    | .error f => return .error f
    | .ok compiled => return .ok (compiled.css, s.named compiled.lookups)
  finish source prepared := do
    let s ← get
    let segments ← belowOf source s.layout.styles
    let output := s.layout.outputStyles.append segments
    publishText source (output.withName (Style.outputName output.name)) prepared.1 prepared.2

/-- Images are linked, and in production read and published. -/
def imageCraft : Craft where
  Prepared := Path
  prepare source := do
    let s ← get
    let segments ← belowOf source s.layout.images
    return .ok (s.layout.outputImages.append segments)
  finish source output := do
    let s ← get
    if s.production then
      let content ← readFile source
      return .ok (← publish (← logicalPathOf output) content)
    else
      linkFile source output
      noteCompiled (← logicalPathOf output)
      return .ok output

/-! ## Lanes -/

/-- A stage under way: the source that is prepared, those that wait, and the result so far. -/
structure Lane (craft : Craft) where
  prepared : Option (Path × craft.Prepared)
  waiting : List Path
  result : StageResult

namespace Lane

def start (craft : Craft) (sources : List Path) : Lane craft :=
  ⟨none, sources, .empty⟩

/-- How many steps are left at most. -/
def steps {craft : Craft} (l : Lane craft) : Nat :=
  2 * l.waiting.length + if l.prepared.isSome then 1 else 0

/-- Adds what became of a source to the result. -/
def conclude (r : StageResult) : Outcome → Build StageResult
  | .error f => failWith r f
  | .ok file => do return r.addOutput (← logicalPathOf file) file

/-- One step of a lane. -/
def step {craft : Craft} (l : Lane craft) : Build (Lane craft) :=
  match l.prepared, l.waiting with
  | some (source, prepared), waiting => do
    return ⟨none, waiting, ← conclude l.result (← craft.finish source prepared)⟩
  | none, source :: waiting => do
    match ← craft.prepare source with
    | .error f => return ⟨none, waiting, ← failWith l.result f⟩
    | .ok prepared => return ⟨some (source, prepared), waiting, l.result⟩
  | none, [] => pure l

/-- The steps of a lane, to its end if there are enough. -/
def run {craft : Craft} : Nat → Lane craft → Build StageResult
  | 0, l => pure l.result
  | count + 1, l => do run count (← l.step)

end Lane

/-- Runs the sources of one kind one after another. -/
def runAll (craft : Craft) (sources : List Path) : Build StageResult :=
  let lane := Lane.start craft sources
  lane.run lane.steps

/-! ## Side by side -/

inductive Turn
  | script
  | style
  deriving DecidableEq, Repr

/-- Whose turn it is, step after step. When it is over the scripts go on to their end, then the
stylesheets. -/
abbrev Schedule := List Turn

def runTogether : Schedule → Lane scriptCraft → Lane styleCraft → Build StageResult
  | [], a, b => do
    let scripts ← a.run a.steps
    let styles ← b.run b.steps
    return scripts.append styles
  | .script :: rest, a, b => do runTogether rest (← a.step) b
  | .style :: rest, a, b => do runTogether rest a (← b.step)

/-! ## Stages -/

def compileScripts (sources : Option (List Path)) : Build StageResult := do
  runAll scriptCraft (sources.getD (← get).scripts)

/-- Compiles stylesheets; partials only reach the output by way of imports. -/
def compileStyles (sources : Option (List Path)) : Build StageResult := do
  let sources := sources.getD ((← get).styles false)
  runAll styleCraft (sources.filter (!Style.isPartial ·.name))

def publishImages (sources : Option (List Path)) : Build StageResult := do
  runAll imageCraft (sources.getD (← get).images)

/-- Publishes vendor files as they are: copied in production, linked otherwise. -/
def publishVendor : Build StageResult := do
  let s ← get
  let source := s.layout.vendor
  let output := s.layout.outputVendor
  if !s.files.isDirectory source then return .empty
  (if s.production then copyFiles else linkFile) source output
  let path ← logicalPathOf output
  noteCompiled path
  return { StageResult.empty with outputs := [path] }

/-- Compiles scripts and stylesheets side by side. -/
def compileAssets (schedule : Schedule) : Build StageResult := do
  let s ← get
  runTogether schedule (.start scriptCraft s.scripts) (.start styleCraft (s.styles false))

end Folio.Build
