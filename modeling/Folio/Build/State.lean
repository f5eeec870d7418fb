import Folio.Asset.Fingerprint
import Folio.Build.Journal
import Folio.Dependency
import Folio.Environment
import Folio.FileTree.Operation
import Folio.Layout
import Folio.Log
import Folio.Template.Token

/-!
# The state of a build

A build works on the files of a site and keeps the route table, the fingerprints of the current
generation of output, the dependency index, the log and a journal. A step of a build may stop it for good:
an `Abort` is no fault of one source. What an aborted step has done stays done.
-/

namespace Folio

namespace Build

structure State where
  /-- The directory from which relative paths are seen. -/
  base : Path
  layout : Layout
  environment : Environment
  files : FileTree
  routes : Route.Table
  dependencies : Dependencies
  store : Asset.Store
  journal : Journal
  log : Log
  deriving DecidableEq, Repr

/-- Why a build stops. -/
inductive Abort
  | file (problem : FileProblem) (path : Path)
  /-- A path that no file can have. -/
  | unusablePath (path : Path)
  /-- A path with a link that leads to itself. -/
  | linkLoop (path : Path)
  /-- A path outside the directory that it has to lie in. -/
  | outside (path : Path)
  /-- A stylesheet that is no file. -/
  | noSheet (path : Path)
  /-- A page that cannot be made, though no source is told to be at fault. -/
  | page (c : Template.Crash)
  deriving DecidableEq, Repr

/-- A problem with a file together with its path. -/
def fileMessage (problem : FileProblem) (path : Path) : String :=
  path.text ++ ": " ++ problem.message

def Abort.message : Abort → String
  | file problem path => fileMessage problem path
  | unusablePath path => fileMessage .unusablePath path
  | linkLoop path => fileMessage .tooManyLinks path
  | outside path => path.text ++ " lies elsewhere"
  | noSheet path => path.text ++ " is no file"
  | page c => c.message

end Build

abbrev Build := EStateM Build.Abort Build.State

namespace Build

/-- A path without links and `..`. -/
def realPath (files : FileTree) (p : Path) : Except Abort Path :=
  match files.realPath p with
  | .ok q => .ok q
  | .error .tooManyLinks => .error (.linkLoop p)
  | .error _ => .error (.unusablePath p)

/-- The layout whose roots two path texts name. -/
def layoutAt (files : FileTree) (base : Path) (source output : String) : Except Abort Layout := do
  let source ← realPath files (Path.ofText base source)
  let output ← realPath files (Path.ofText base output)
  return ⟨source, output⟩

/-- The state of a site before its first build. -/
def State.initial (base : Path) (layout : Layout) (environment : Environment) (verbose : Bool)
    (files : FileTree) : State :=
  ⟨base, layout, environment, files, [], .empty, .empty (environment == .production), [],
    .empty verbose⟩

def State.production (s : State) : Bool :=
  s.environment == .production

/-- Runs an operation on the files; its problem is one of `path`. -/
def onFiles {α : Type} (path : Path) (x : FileTree.Op α) : Build α := fun s =>
  match x s.files with
  | .ok a files => .ok a { s with files }
  | .error .unusablePath files => .error (.unusablePath path) { s with files }
  | .error problem files => .error (.file problem path) { s with files }

def readFile (p : Path) : Build Bytes := onFiles p (FileTree.Op.content p)
def writeFile (p : Path) (content : Bytes) : Build Unit := onFiles p (FileTree.Op.write p content)
def removeFile (p : Path) : Build Unit := onFiles p (FileTree.Op.remove p)
def linkFile (target p : Path) : Build Unit := onFiles p (FileTree.Op.link target p)
def copyFiles (source p : Path) : Build Unit := onFiles p (FileTree.Op.copy source p)
def resetDirectory (p : Path) : Build Unit := onFiles p (FileTree.Op.resetDirectory p)

/-- A path without links and `..` among the files of the site. -/
def realPathOf (p : Path) : Build Path := fun s =>
  match realPath s.files p with
  | .ok q => .ok q s
  | .error abort => .error abort s

def note (line : String) : Build Unit :=
  modify fun s => { s with log := s.log.note line }

def noteCompiled (path : String) : Build Unit :=
  modify fun s => { s with log := s.log.compiled path }

/-- The segments of a path below a directory, in which it has to lie. -/
def belowOf (p directory : Path) : Build (List String) :=
  match p.below? directory with
  | some segments => pure segments
  | none => throw (.outside p)

/-- The public path of an output file. -/
def logicalPathOf (p : Path) : Build String := do
  match (← get).layout.logicalPath p with
  | some path => return path
  | none => throw (.outside p)

/-- The paths that stand for some looked-up ones at the moment. -/
def State.named (s : State) (paths : List String) : Names :=
  paths.map fun path => (path, s.store.resolve path)

/-- The output files behind looked-up paths. -/
def State.lookedUp (s : State) (names : Names) : List String :=
  names.map fun n => (s.layout.outputFile n.1).text

/-- The state after content of a public path was given its physical path. -/
def State.published (s : State) (path : String) (content : Bytes) : State :=
  { s with
    store := s.store.publish path content
    journal := .published path (s.store.physical path content) :: s.journal }

/-- The state after a source was made: it depends on some files and on what it looked up. -/
def State.made (s : State) (kind : Kind) (source : Path) (files : List String) (names : Names) :
    State :=
  { s with
    dependencies := s.dependencies.record s.base source.text (files ++ s.lookedUp names)
    journal := .made kind (normalize s.base source.text) names :: s.journal }

/-! ## Results of stages -/

structure StageResult where
  /-- Public paths of what was written. -/
  outputs : List String
  /-- The output files by which dependents know it. -/
  outputFiles : List Path
  failures : List Fault
  deriving DecidableEq, Repr

namespace StageResult

def empty : StageResult := ⟨[], [], []⟩

def append (a b : StageResult) : StageResult :=
  ⟨a.outputs ++ b.outputs, a.outputFiles ++ b.outputFiles, a.failures ++ b.failures⟩

def ok (r : StageResult) : Bool :=
  r.failures.isEmpty

def addOutput (r : StageResult) (path : String) (file : Path) : StageResult :=
  { r with outputs := r.outputs ++ [path], outputFiles := r.outputFiles ++ [file] }

def addFailure (r : StageResult) (f : Fault) : StageResult :=
  { r with failures := r.failures ++ [f] }

end StageResult

/-- Notes a fault and adds it to the result of a stage. -/
def failWith (r : StageResult) (f : Fault) : Build StageResult := do
  note f.text
  return r.addFailure f

/-! ## Routes -/

/-- The files below the views, in order. -/
def State.templates (s : State) : List Path :=
  s.files.filesBelow s.layout.views

/-- The entries of all page templates, in order. -/
def State.routeEntries (s : State) : List Route.Entry :=
  s.templates.filterMap fun p =>
    (p.below? s.layout.views).bind fun segments =>
      Route.entryFor (joinSegments segments) p.text

/-- Makes the route table anew and answers whether it changed. -/
def rebuildRoutes : Build Bool := do
  let s ← get
  let (table, notes) := Route.tableOf s.routeEntries
  notes.forM note
  modify fun s => { s with routes := table }
  return !Table.same table s.routes

end Build

end Folio
