import Folio.Build.Project
import Folio.CommandLine.Arguments
import Folio.Configuration
import Folio.Text.Styled

/-!
# Running commands

What a command does to the files of a site and what it prints. `run` is the whole program: from the
files, the directory in which it is called, the variable that may choose the build mode and the
arguments to a `Screen` and an exit code.
-/

namespace Folio.CommandLine

open Text Build

/-! ## The screen -/

inductive Line
  /-- A line for the person who called, styled. -/
  | output (text : String)
  /-- A message about what went wrong, styled. -/
  | message (text : String)
  /-- A line of the log. -/
  | log (text : String)
  deriving DecidableEq, Repr

namespace Line

/-- The line as a terminal is given it. -/
def styledText : Line → String
  | output s | message s | log s => s

/-- The line as anything else is given it. -/
def plainText : Line → String
  | output s | message s => plain s
  | log s => s

end Line

/-- The files of a site, what was printed, newest first, and the addresses of previews. -/
structure Screen where
  files : FileTree
  newest : List Line
  served : List (Scalar × Scalar)
  deriving DecidableEq, Repr

def Screen.lines (s : Screen) : List Line :=
  s.newest.reverse

/-- Why a program stops early. -/
inductive Stop
  | exit (code : Nat)
  | abort (a : Build.Abort)
  /-- A root was set to something else than text. -/
  | rootNotText
  /-- The build mode was set to something else than text. -/
  | modeNotText
  deriving DecidableEq, Repr

abbrev Program := EStateM Stop Screen

def say (line : Line) : Program Unit :=
  modify fun s => { s with newest := line :: s.newest }

def sayAll (lines : List Line) : Program Unit :=
  lines.forM say

def red (text : String) : String := styled "31" text
def yellow (text : String) : String := styled "33" text

/-! ## The site of a command -/

/-- The directory in which the program is called and the variable that may choose the mode. -/
structure Caller where
  directory : Path
  modeVariable : Option String
  deriving DecidableEq, Repr

/-- The mode that the last flag chooses. -/
def chosenMode (a : Arguments) : Option String :=
  (a.flags.reverse.map (·.1)).findSome? fun
    | .production => some Environment.production.name
    | .development => some Environment.development.name
    | .sandbox => some Environment.sandbox.name
    | _ => none

/-- The build mode of a command. -/
def modeOf (caller : Caller) (a : Arguments) (c : Configuration) : Program Environment := do
  let given := [chosenMode a, caller.modeVariable]
  let choices ← match c.environment with
    | some (.text s) => pure (given ++ [some s])
    | some v =>
      if v.isTrue && !given.any (·.any (· ≠ "")) then throw .modeNotText
      pure given
    | none => pure given
  let (mode, warning) := Environment.choose choices
  sayAll (warning.toList.map .log)
  return mode

/-- The path text of a root: from a flag, a setting, or its usual one. -/
def rootOf (flag : Option String) (setting : Option Scalar) (usual : String) : Program String :=
  match flag, setting with
  | some s, _ => pure s
  | none, some (.text s) => pure s
  | none, none => pure usual
  | none, some _ => throw .rootNotText

/-- The site that a command works on. -/
def siteOf (caller : Caller) (a : Arguments) (c : Configuration) : Program State := do
  let verbose := (a.value? .silent).isNone && (c.verbose.map Scalar.isTrue).getD true
  let mode ← modeOf caller a c
  let source ← rootOf (a.value? .source) c.source "src"
  let output ← rootOf (a.value? .output) c.output "public"
  let files := (← get).files
  match layoutAt files caller.directory source output with
  | .error abort => throw (.abort abort)
  | .ok layout => return .initial caller.directory layout mode verbose files

/-- Runs a step of a build; its log and its files are shown even if it is aborted. -/
def runStep {α : Type} (s : State) (x : Build α) : Program (Except Abort α × State) := do
  let (result, s) := match x s with
    | .ok a s => (Except.ok a, s)
    | .error abort s => (Except.error abort, s)
  modify fun screen => { screen with files := s.files }
  sayAll (s.log.messages.map .log)
  return (result, s)

/-- Runs a step of a build; a problem with a file ends the program. -/
def runOrExit {α : Type} (s : State) (x : Build α) : Program (α × State) := do
  let (result, s) ← runStep s x
  match result with
  | .ok a => return (a, s)
  | .error (.file problem path) =>
    say (.message (red ("❌ " ++ fileMessage problem path)))
    throw (.exit 1)
  | .error abort => throw (.abort abort)

/-- Builds a site; failures end the program unless it keeps going. -/
def buildSite (s : State) (keepGoing : Bool) : Program State := do
  let (result, s) ← runOrExit s (buildProject [])
  let count := result.failures.length
  if result.ok then return s
  if keepGoing then
    say (.message (yellow s!"⚠️  Build finished with {count} error(s), watching for fixes"))
    return s
  say (.message (red s!"❌ Build failed with {count} error(s)"))
  throw (.exit 1)

/-! ## Commands -/

def defaultHost : String := "127.0.0.1"
def defaultPortNumber : Int := 5000

/-- A flag's value if it counts as given, else a setting, else a usual value. -/
def addressPart (flag : Option Scalar) (setting : Option Scalar) (usual : Scalar) : Scalar :=
  ((flag.filter Scalar.isTrue).or setting).getD usual

def runCommand (command : Command) (a : Arguments) (c : Configuration) (s : State) :
    Program Unit :=
  match command with
  | .build => do
    say (.output ("🔨 Building " ++ s.layout.source.text ++ s!" ({s.environment.name})..."))
    let _ ← buildSite s false
    say (.output "✅ Build complete")
  | .watch => do
    let host := addressPart ((a.value? .host).map .text) c.host (.text defaultHost)
    let portNumber := addressPart (((a.value? .portNumber).bind integer?).map .integer) c.portNumber
      (.integer defaultPortNumber)
    let _ ← buildSite s true
    say (.output s!"🚀 Previewing on http://{host.shown}:{portNumber.shown}")
    modify fun screen => { screen with served := screen.served ++ [(host, portNumber)] }
  | .routes => do
    let s ← buildSite s false
    sayAll ((Route.formatTable s.routes).map .output)
  | .clean => do
    let (_, s) ← runOrExit s clean
    say (.output ("🧹 Cleaned " ++ s.layout.output.text))

/-- Does what the arguments ask for. -/
def invoke (caller : Caller) : Invocation → Program Unit
  | .version => say (.output s!"{programName}, version {programVersion}")
  | .help c => sayAll ((help c).map .output)
  | .run command a => do
    let path := (a.value? .configuration).getD (Configuration.defaultPath caller.directory)
    let (c, warning) := Configuration.load (← get).files caller.directory path
    sayAll (warning.toList.map .log)
    runCommand command a c (← siteOf caller a c)

def program (caller : Caller) (arguments : List String) : Program Unit :=
  match Invocation.ofArguments arguments with
  | .ok invocation => invoke caller invocation
  | .error (c, e) => do
    sayAll ((e.report c).map .message)
    throw (.exit 2)

/-- What a run of the program comes to. A program that is stopped by something else than its own
decision exits with one. -/
structure Outcome where
  screen : Screen
  code : Nat
  stopped : Option Stop
  deriving DecidableEq, Repr

def run (files : FileTree) (caller : Caller) (arguments : List String) : Outcome :=
  match program caller arguments ⟨files, [], []⟩ with
  | .ok () screen => ⟨screen, 0, none⟩
  | .error (.exit code) screen => ⟨screen, code, none⟩
  | .error stop screen => ⟨screen, 1, some stop⟩

end Folio.CommandLine
