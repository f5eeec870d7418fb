import Folio.Asset.Name
import Folio.FileTree.Operation
import Folio.Table
import Folio.Template.Parser
import Folio.Template.Value

/-!
# Rendering

`render` makes a page of a root template. Templates are loaded from the views by name, each time
that they are asked for; the trace keeps the files that were loaded, the assets that were looked up
and the names that were asked for in vain, in order.

A template that extends another gives it its blocks and prints nothing itself: of blocks of one
name the one nearest to the root counts. The nesting of templates and blocks is bounded by
`maxNesting`, beyond which a template is taken to extend or include itself without end.
-/

namespace Folio.Template

open Text

/-- What a rendering sees of the site. -/
structure Site where
  files : FileTree
  views : Path
  /-- The path under which a logical path is published, if that is recorded. -/
  published : String → Option String
  /-- The output file of a published path. -/
  outputFile : String → Path

/-- What a rendering has read so far, newest first. -/
structure Trace where
  loads : List Path
  lookups : List String
  /-- Names of templates that were not there, so that another one was asked for. -/
  missing : List String
  deriving DecidableEq, Repr

inductive Failure
  | cause (c : Cause)
  /-- A cause that has its place; the file is empty where it is not told. -/
  | fault (f : Fault)
  | crash (c : Crash)
  deriving DecidableEq, Repr

abbrev Render := StateT Trace (Except Failure)

def fail {α : Type} (c : Cause) : Render α :=
  throw (.cause c)

def ofExcept {α : Type} : Except Cause α → Render α
  | .ok a => pure a
  | .error c => fail c

/-- Gives a cause its place; a fault keeps the place it has. -/
def Failure.place (file : String) (line : Nat) : Failure → Failure
  | .cause c => .fault ⟨c, file, line, 0⟩
  | f => f

/-- The failure of a defect of a file's template. -/
def Defect.failure (file : String) : Defect → Failure
  | .onLine c line => .fault ⟨c, file, line, 0⟩
  | .onSomeLine c line => .fault ⟨c, "", line, 0⟩
  | .anywhere c => .cause c
  | .crash c => .crash c

/-- Places the causes of a rendering on a line of a file. -/
def located {α : Type} (file : String) (line : Nat) (x : Render α) : Render α := fun trace =>
  match x trace with
  | .ok r => .ok r
  | .error f => .error (f.place file line)

/-! ## Functions -/

def lookUp (path : String) : Render Unit :=
  modify fun trace => { trace with lookups := path :: trace.lookups }

/-- The path under which an asset of a name is published. A path that stands for itself is markup
if the name is. -/
def assetPath (site : Site) (name : String) (isMarkup : Bool) : Render Value := do
  let path := Asset.logicalPath name none
  lookUp path
  match site.published path with
  | some published => return .text published
  | none => return if isMarkup then .markup path else .text path

/-- The text of the published file of an asset. -/
def inlined (site : Site) (name : String) : Render Value := do
  let path := Asset.logicalPath name none
  lookUp path
  let file := site.outputFile ((site.published path).getD path)
  match (FileTree.Op.content file).run site.files with
  | .ok content _ =>
    match decodeLines content with
    | .ok s => return .markup s
    | .error f => fail (.undecodable f.message)
  | .error .unusablePath _ => fail .embeddedNull
  | .error problem _ => fail (.cannotInline name problem.message)

/-- The value of a function of asset names. -/
def ofAsset (site : Site) (f : Function) (name : String) (isMarkup : Bool) : Render Value :=
  match f with
  | .inlineAsset => inlined site name
  | _ => assetPath site name isMarkup

/-- The value of a function of one argument. -/
def applyTo (site : Site) (f : Function) (argument : Value) : Render Value := do
  match f, argument with
  | .squish, v => return .text (squish (← ofExcept v.plain))
  | f, .text name => ofAsset site f name false
  | f, .markup name => ofAsset site f name true
  | _, .undefined what => fail (.undefinedValue what)
  | _, _ => throw (.crash .nameNotText)

def applyFunction (site : Site) (f : Function) : List Value → Render Value
  | [] => fail (.noArgument f.name f.argument)
  | [argument] => applyTo site f argument
  | arguments => fail (.furtherArguments f.name arguments.length)

/-! ## Values of expressions -/

abbrev Variables := List (String × Value)

/-- What an expression sees. -/
structure Scope where
  site : Site
  bindings : Variables
  /-- The page or the included template that is being rendered, and its blocks. -/
  page : Value
  /-- Inside a block, the one of the same name that it takes the place of. -/
  parent : Option Value
  /-- Names for which others of the same normal form stand. -/
  renamed : List (String × String)
  /-- Renders the block of a name and a distance. -/
  renderBlock : String → Nat → Render String

/-- The values that names have if nothing else is told. -/
def builtins : Variables :=
  [("range", .kind .range), ("dict", .kind .table), ("lipsum", .thing "function"),
    ("cycler", .kind .cycler), ("joiner", .kind .joiner), ("namespace", .kind .namespace)]

def Scope.value (scope : Scope) (name : String) : Value :=
  let special :=
    if name = "self" then some scope.page
    else if name = "super" then scope.parent
    else none
  let spelling := (scope.renamed.lookup name).getD name
  ((special.or (scope.bindings.lookup spelling)).or (builtins.lookup spelling)).getD
    (.undefined s!"{quoteText name} is undefined")

/-- The value of a call. -/
def Scope.call (scope : Scope) (f : Value) (arguments : List Value) : Render Value := do
  match f with
  | .function f => applyFunction scope.site f arguments
  | .kind k => ofExcept (Value.ofKind k arguments)
  | .block name distance =>
    match arguments with
    | [] => return .markup (← scope.renderBlock name distance)
    | _ => return .thing "str"
  | .thing _ => return .thing "object"
  | .undefined what => fail (.undefinedValue what)
  | f => fail (.notCallable f.typeName)

/-- The value that a filter makes. -/
def Scope.filter (scope : Scope) (filter : String) (v : Value) (arguments : List Value) :
    Render Value :=
  if filter = "squish" then applyFunction scope.site .squish (v :: arguments)
  else fail (.unknownFilterUsed filter)

mutual

def Expr.eval (scope : Scope) : Expr → Render Value
  | .text s => pure (.text s)
  | .integer n => pure (.integer n)
  | .real x => pure (.real x)
  | .truth b => pure (.truth b)
  | .none => pure .none
  | .name s => pure (scope.value s)
  | .member e field => do ofExcept ((← e.eval scope).member field)
  | .item e key => do
    let v ← e.eval scope
    ofExcept (v.item (← key.eval scope))
  | .call f arguments => do
    let f ← f.eval scope
    scope.call f (← arguments.eval scope)
  | .quotient a b => do
    let v ← a.eval scope
    ofExcept (v.quotient (← b.eval scope))
  | .negative e => do ofExcept ((← e.eval scope).signed "-")
  | .positive e => do ofExcept ((← e.eval scope).signed "+")
  | .filtered _ filter e arguments => do
    let v ← e.eval scope
    scope.filter filter v (← arguments.eval scope)

def Arguments.eval (scope : Scope) : Arguments → Render (List Value)
  | .done => pure []
  | .more e rest => do
    let v ← e.eval scope
    return v :: (← rest.eval scope)

end

/-! ## Loading -/

/-- The file of a template's name below the views; `..` leads nowhere. -/
def Site.templateFile? (site : Site) (name : String) : Option Path :=
  let segments := pathSegments name
  let p := site.views.append segments
  if segments.contains ".." ∨ !site.files.isFile p then none else some p

/-- The template of a name. -/
def load (site : Site) (name : String) : Render Source := do
  match site.templateFile? name with
  | none => fail (.templateNotFound name)
  | some p =>
    match (FileTree.Op.content p).run site.files with
    | .error _ _ => fail (.templateNotFound name)
    | .ok content _ =>
      match decode content with
      | .error f => fail (.undecodable f.message)
      | .ok s =>
        modify fun trace => { trace with loads := p :: trace.loads }
        match parse s with
        | .ok body => return .ofBody name p.text body
        | .error d => throw (d.failure p.text)

/-- The template that a tag to extend one names. -/
def loadNamed (site : Site) : Value → Render Source
  | .text s | .markup s => load site s
  | .undefined what => fail (.undefinedValue what)
  | _ => throw (.crash .nameNotText)

/-- The first of some templates that is there; `missing` is told if none is. -/
def loadFirst (site : Site) (missing : Cause) : List Value → Render Source
  | [] => fail missing
  | v :: rest =>
    match v with
    | .text s | .markup s =>
      if (site.templateFile? s).isSome then load site s
      else do
        modify fun trace => { trace with missing := s :: trace.missing }
        loadFirst site missing rest
    | .undefined _ => loadFirst site missing rest
    | _ => throw (.crash .nameNotText)

/-- The template that a tag to include one names, or the first one there of those it names. -/
def loadIncluded (site : Site) (v : Value) : Render Source := do
  match v with
  | .text _ | .markup _ | .undefined _ => loadNamed site v
  | v =>
    if !v.isTrue then fail (.templateNotFound "None")
    match v with
    | .list items =>
      let last ← ofExcept ((items.toList.getLast?.map Value.plain).getD (.ok ""))
      loadFirst site (.templateNotFound last) items.toList
    | .table entries => loadFirst site .noTemplateOf (entries.keys.map Value.text)
    | .range _ _ _ => throw (.crash .nameNotText)
    | v => fail (.notIterable v.typeName)

/-! ## Bodies -/

/-- The blocks of the templates of a page, by name, nearest to the root first. -/
abbrev Blocks := List (String × Source)

/-- The blocks of a template. -/
def Source.blocks (s : Source) : Blocks :=
  s.body.blocks.map fun (name, _, body) => (name, .ofBody s.name s.file body)

/-- The block of a name that is so many templates away from the nearest to the root. -/
def blockAt? (blocks : Blocks) (name : String) (distance : Nat) : Option Source :=
  ((blocks.filter (·.1 == name))[distance]?).map (·.2)

/-- What a body has come to: its output, the blocks that count, and the template it extends. -/
structure Progress where
  output : String
  blocks : Blocks
  extended : Option Source

/-- Something to render: a body of a template, the block that it is if it is one, the blocks that
count, and the name of the page or included template that it is rendered for. -/
structure Task where
  source : Source
  block : Option (String × Nat)
  blocks : Blocks
  page : String

/-- The task of a template that is rendered for itself. -/
def Task.ofPage (s : Source) : Task :=
  ⟨s, none, s.blocks, s.name⟩

/-- The task of a block. -/
def Task.ofBlock (task : Task) (blocks : Blocks) (name : String) (distance : Nat) : Option Task :=
  (blockAt? blocks name distance).map fun source =>
    { task with source, block := some (name, distance), blocks }

/-- Renders the block of a name and a distance. `deeper` renders it; it is missing where the nesting
is exhausted. -/
def renderBlock (deeper : Option (Task → Render String)) (task : Task) (blocks : Blocks)
    (name : String) (distance : Nat) : Render String :=
  match deeper with
  | none => fail .endlessNesting
  | some deeper => ((task.ofBlock blocks name distance).map deeper).getD (pure "")

/-- What the expressions of a task see once some blocks count. -/
def Task.scope (task : Task) (site : Site) (bindings : Variables)
    (deeper : Option (Task → Render String)) (blocks : Blocks) : Scope where
  site
  bindings
  page := .page task.page (blocks.map (·.1))
  parent := task.block.map fun (name, distance) =>
    if (blockAt? blocks name (distance + 1)).isSome then .block name (distance + 1)
    else .undefined ("there is no parent block called " ++ quoteText name ++ ".")
  renamed := task.source.renamed
  renderBlock := renderBlock deeper task blocks

/-- Renders the parts of a body. `deeper` renders what they include, extend or call. -/
def renderParts (site : Site) (bindings : Variables) (deeper : Option (Task → Render String))
    (task : Task) : Body → Progress → Render Progress
  | .done, p => pure p
  | .text s next, p =>
    renderParts site bindings deeper task next
      (if p.extended.isSome then p else { p with output := p.output ++ s })
  | .print line e next, p =>
    if p.extended.isSome then renderParts site bindings deeper task next p
    else do
      let s ← located task.source.file line do
        ofExcept (← e.eval (task.scope site bindings deeper p.blocks)).printed
      renderParts site bindings deeper task next { p with output := p.output ++ s }
  | .conditional line test yes no next, p => do
    let v ← located task.source.file line (test.eval (task.scope site bindings deeper p.blocks))
    let p ←
      if v.isTrue then renderParts site bindings deeper task yes p
      else renderParts site bindings deeper task no p
    renderParts site bindings deeper task next p
  | .insert line template next, p => do
    let output ← located task.source.file line do
      let v ← template.eval (task.scope site bindings deeper p.blocks)
      match deeper with
      | none => fail .endlessNesting
      | some deeper => deeper (.ofPage (← loadIncluded site v))
    renderParts site bindings deeper task next { p with output := p.output ++ output }
  | .inherit line before template next, p => do
    if p.extended.isSome then located task.source.file before (fail .extendedTwice)
    let p ← located task.source.file line do
      let v ← template.eval (task.scope site bindings deeper p.blocks)
      if deeper.isNone then fail .endlessNesting
      else
        let source ← loadNamed site v
        pure { p with blocks := p.blocks ++ source.blocks, extended := some source }
    renderParts site bindings deeper task next p
  | .block line name _ next, p =>
    if task.block.isNone && p.extended.isSome then
      renderParts site bindings deeper task next p
    else do
      let output ← located task.source.file line (renderBlock deeper task p.blocks name 0)
      renderParts site bindings deeper task next { p with output := p.output ++ output }

/-- Renders a task with at most `depth` tasks inside each other. -/
def renderTask (site : Site) (bindings : Variables) : Nat → Task → Render String
  | depth, task => do
    let deeper :=
      match depth with
      | 0 => none
      | depth + 1 => some (renderTask site bindings depth)
    let p ← renderParts site bindings deeper task task.source.body ⟨"", task.blocks, none⟩
    match deeper, p.extended with
    | some deeper, some source =>
      return p.output ++ (← deeper { task with source, blocks := p.blocks })
    | _, _ => return p.output

/-- How deeply templates and blocks may lie inside each other. -/
def maxNesting : Nat := 940

/-- A page and what was read for it, in order. -/
structure Rendered where
  html : String
  loads : List Path
  lookups : List String
  missing : List String
  deriving DecidableEq, Repr

/-- Renders the template of a name. Causes without a place of their own are faults of `file`. -/
def render (site : Site) (bindings : Variables) (name file : String) : Except Failure Rendered :=
  let page : Render String := located file 0 do
    renderTask site bindings maxNesting (.ofPage (← load site name))
  match page.run ⟨[], [], []⟩ with
  | .error (.fault f) => .error (.fault (if f.file = "" then { f with file } else f))
  | .error f => .error f
  | .ok (html, trace) =>
    .ok ⟨html, trace.loads.reverse, trace.lookups.reverse, trace.missing.reverse⟩

end Folio.Template
