import Folio.Asset.Name
import Folio.Configuration.Encoding
import Folio.Configuration.Statement

/-!
# Configuration

A site may hold a configuration file, whose statements give names values. `Configuration.ofBytes`
reads such a file and keeps the six names that mean something; the last value of a name counts.
`Configuration.load` takes a file that cannot be read for an empty one and says why.
-/

namespace Folio

structure Configuration where
  source : Option Scalar
  output : Option Scalar
  environment : Option Scalar
  verbose : Option Scalar
  host : Option Scalar
  portNumber : Option Scalar
  deriving DecidableEq, Repr

namespace Configuration

def empty : Configuration :=
  ⟨none, none, none, none, none, none⟩

/-- The configuration that some values of names make. -/
def ofValues (values : Values) : Configuration :=
  let setting (name : String) : Option Scalar := (values.lookup name).join
  ⟨setting "SRC_DIR", setting "DEST_DIR", setting "ENVIRONMENT", setting "VERBOSE",
    setting "HOST", setting "PORT"⟩

def ofBytes (content : Bytes) : Except ConfigurationProblem Configuration := do
  return ofValues (← evaluate [] (← statements (← Encoding.decode content)))

def defaultName : String := "pagesmith.config.py"

/-- The extension without which a file is no configuration. -/
def extension : String := ".py"

/-- The configuration in a file. -/
def ofFile (files : FileTree) (p : Path) : Except ConfigurationProblem Configuration :=
  match (FileTree.Op.content p).run files with
  | .error problem _ => .error (.file problem p)
  | .ok content _ => ofBytes content

/-- The configuration in the file that a path text names, and a warning if it cannot be read. -/
def load (files : FileTree) (base : Path) (name : String) : Configuration × Option String :=
  let p := Path.ofText base name
  if !files.pathExists p || !Asset.endsWith p.text extension then (empty, none)
  else
    match ofFile files p with
    | .ok c => (c, none)
    | .error problem =>
      let path := (Written.ofText name).text
      (empty, some (s!"Failed to load config from {path}: " ++ problem.message p.name))

/-- The path text of the configuration of a site. -/
def defaultPath (base : Path) : String :=
  (base.child defaultName).text

end Configuration

end Folio
