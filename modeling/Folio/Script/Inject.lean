import Folio.Asset.Name
import Folio.Script.Edit

/-!
# Constants in scripts

`injectWith` replaces each call of a path helper by the path of the asset that it names and each
reference to a route helper by the route, both as quoted literals. A helper call has to have
exactly one argument and that a plain string. The assets are asked for one after the other, in any
monad; `inject` asks a table and notes what it asked.
-/

namespace Folio.Script

open Text

inductive Helper
  | asset
  | image
  | script
  | stylesheet
  deriving DecidableEq, Repr

namespace Helper

def name : Helper → String
  | asset => "asset_path"
  | image => "image_path"
  | script => "script_path"
  | stylesheet => "stylesheet_path"

/-- The category that the helper's assets have; any category for `asset`. -/
def category : Helper → Option Asset.Category
  | asset => none
  | image => some .image
  | script => some .script
  | stylesheet => some .stylesheet

def all : List Helper :=
  [asset, image, script, stylesheet]

def ofName? (name : String) : Option Helper :=
  all.find? (·.name == name)

end Helper

/-- The names whose calls are injected. -/
def helperNames : List String :=
  Helper.all.map Helper.name

/-- What is wrong with a helper call, or the name that it asks for. -/
def Call.assetName (c : Call) : Except Cause String :=
  match c.arguments with
  | [] => .error (.missingArgument c.callee.name)
  | [a] =>
    match a.literal with
    | none => .error (.notLiteral c.callee.name a.raw)
    | some value => .ok value
  | arguments => .error (.tooManyArguments c.callee.name arguments.length)

/-- What a proper helper call asks for: a name, in the category that the helper forces. -/
structure Request where
  name : String
  category : Option Asset.Category
  deriving DecidableEq, Repr

/-- The published path that a request is about. -/
def Request.path (request : Request) : String :=
  Asset.logicalPath request.name request.category

/-- The request of a helper call, or what is wrong with it; `none` if no helper is called. -/
def Call.request (c : Call) : Except Cause (Option Request) :=
  match Helper.ofName? c.callee.name with
  | none => .ok none
  | some helper => c.assetName.map fun name => some ⟨name, helper.category⟩

section Injection

variable {m : Type → Type} [Monad m]

/-- The literal in place of a node; `none` leaves the node as it is. `ask` answers requests. -/
def Node.constant (routes : List (String × String)) (ask : Request → m String) :
    Node → ExceptT Defect m (Option String)
  | .reference r => pure ((routes.lookup r.name).map quote)
  | .call c =>
    match c.request with
    | .error cause => throw ⟨cause, c.start⟩
    | .ok none => pure none
    | .ok (some request) => do return some (quote (← ask request))

/-- A node together with the literal in its place. -/
def Node.withConstant (routes : List (String × String)) (ask : Request → m String) (n : Node) :
    ExceptT Defect m (Node × Option String) := do
  return (n, ← n.constant routes ask)

/-- Replaces every helper of a script, with the answers of `ask`. -/
def injectWith (routes : List (String × String)) (ask : Request → m String) (source : String) :
    ExceptT Defect m String := do
  match parse helperNames source.toList with
  | .error defect => throw defect
  | .ok tree =>
    return String.ofList (tree.substitute (← tree.walk.mapM (Node.withConstant routes ask)))

end Injection

/-- A script with its constants in place and the paths that it looked up. -/
structure Injected where
  output : String
  lookups : List String
  deriving DecidableEq, Repr

/-- Answers a request with `resolve` and notes its path, the newest first. -/
def askNoting (resolve : String → String) (request : Request) : StateM (List String) String := do
  modify (request.path :: ·)
  return resolve request.path

/-- Replaces every helper of a script; `resolve` says where a path is published. -/
def inject (routes : List (String × String)) (resolve : String → String) (source : String) :
    Except Defect Injected :=
  let (result, asked) := (injectWith routes (askNoting resolve) source).run.run []
  result.map fun output => ⟨output, asked.reverse⟩

end Folio.Script
