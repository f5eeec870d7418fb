import Folio.Style.Compact
import Folio.Style.Evaluate
import Folio.Style.Import
import Folio.Style.Print

/-!
# Compiled stylesheets

`compile` loads a stylesheet with what it imports, puts values for variables and asset functions,
and prints the rules: expanded, or compact in production. It also answers the assets that were
looked up, in order.
-/

namespace Folio.Style

open Text

/-! ## Variables -/

abbrev Bindings := List (String × Value)

/-- The variables of a sheet, and those of the rule that is under way. -/
structure Scope where
  globals : Bindings
  locals : Bindings
  deriving DecidableEq, Repr

namespace Scope

def find? (s : Scope) (name : String) : Option Value :=
  (s.locals.lookup name).or (s.globals.lookup name)

/-- Whether a default has to be computed: there is no value yet, or none to speak of. -/
def isOpen (v : Option Value) : Bool :=
  v.all (· == .null)

/-- Where an assignment puts its value, among the variables of the rule or of the sheet; `none` if
it does not count. -/
def target (s : Scope) (inRule : Bool) (a : Assignment) : Option Bool :=
  let isLocal := inRule && !a.isGlobal
  if !a.isDefault then some isLocal
  else if isLocal && (s.locals.lookup a.name).isSome then
    if isOpen (s.locals.lookup a.name) then some true else none
  else if (s.globals.lookup a.name).isSome then
    if isOpen (s.globals.lookup a.name) then some false else none
  else some isLocal

def put (s : Scope) (isLocal : Bool) (name : String) (v : Value) : Scope :=
  if isLocal then { s with locals := Table.put name v s.locals }
  else { s with globals := Table.put name v s.globals }

end Scope

/-! ## Running -/

/-- What compiling has come to. -/
structure Progress where
  scope : Scope
  /-- Newest first. -/
  nodes : List Node
  /-- Newest first. -/
  lookups : List String
  deriving DecidableEq, Repr

def Progress.start : Progress := ⟨⟨[], []⟩, [], []⟩

/-- Runs a stylesheet. -/
abbrev Run := StateT Progress (Except Defect)

/-- What all of a sheet depends on. -/
structure Environment where
  resolve : String → String
  compactly : Bool

/-- The value of an expression. -/
def valueOf (env : Environment) (e : Expression) : Run Value := do
  let p ← get
  let setting : Setting := ⟨env.resolve, env.compactly, p.scope.find?⟩
  let (v, lookups) ← (evaluate setting e).run p.lookups
  set { p with lookups := lookups }
  return v

/-- Gives a variable its value. -/
def assign (env : Environment) (inRule : Bool) (a : Assignment) : Run Unit := do
  match (← get).scope.target inRule a with
  | none => return
  | some isLocal =>
    let v ← valueOf env a.value
    modify fun p => { p with scope := p.scope.put isLocal a.name v }

/-- Whether a value is a list of which nothing shows. -/
def isBlankList : Value → Bool
  | .list _ items => items.toList.all Value.isInvisible
  | _ => false

/-- The entry of an item, if it makes one. -/
def runItem (env : Environment) : Item → Run (Option Entry)
  | .comment s => return some (.comment s)
  | .variable a => do
    assign env true a
    return none
  | .custom property value => return some (.custom property value)
  | .declaration property here e => do
    let v ← valueOf env e
    match v.badQuantity? with
    | some q => throw ⟨.notPlain (q.text env.compactly), here⟩
    | none =>
      if v.isInvisible then return none
      return some (.declaration property (v.render env.compactly) (!isBlankList v))

/-- Runs a statement of a file. -/
def runStatement (env : Environment) : Statement → Run Unit
  | .comment s => modify fun p => { p with nodes := .comment s :: p.nodes }
  | .variable a => assign env false a
  | .import_ (.sheet _) _ => return
  | .import_ (.link e conditions) _ => do
    let v ← valueOf env e
    let text := v.render env.compactly ++ (if conditions = "" then "" else " " ++ conditions)
    modify fun p => { p with nodes := .link text :: p.nodes }
  | .rule selector items => do
    let entries ← items.filterMapM (runItem env)
    modify fun p => { p with
      scope := { p.scope with locals := [] }
      nodes := .rule selector entries :: p.nodes }

/-- Runs statements, each of a file of its own. -/
def runStatements (env : Environment) : List Sourced → Progress → Except Located Progress
  | [], p => .ok p
  | (file, s) :: rest, p =>
    match (runStatement env s).run p with
    | .error d => .error ⟨d, file⟩
    | .ok ((), p) => runStatements env rest p

/-! ## Compiling -/

/-- The report of a defect, with its file seen from `base`. -/
def Located.report (d : Located) (base : Path) : String :=
  d.defect.report (FileTree.Op.relativeText d.file base)

/-- A compiled stylesheet and what it looked up. -/
structure Compiled where
  css : String
  lookups : List String
  deriving DecidableEq, Repr

/-- Runs the stylesheet of a file with all that it imports. -/
def run (files : FileTree) (root : Path) (env : Environment) (file : Path) :
    Except Located Progress := do
  runStatements env (← load files root file) .start

/-- Compiles the stylesheet of a file. `root` is the directory of styles, `base` the directory from
which reports name files. -/
def compile (files : FileTree) (base root : Path) (resolve : String → String) (compactly : Bool)
    (file : Path) : Except Fault Compiled :=
  match run files root ⟨resolve, compactly⟩ file with
  | .error d => .error (.ofReport (d.report base) file.text)
  | .ok p =>
    let css := print compactly p.nodes.reverse
    .ok ⟨if compactly then compact css else css, p.lookups.reverse⟩

end Folio.Style
