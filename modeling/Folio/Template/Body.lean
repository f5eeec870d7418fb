import Folio.Template.Token
import Folio.Text.Normal

/-!
# Template bodies

A body is a sequence of parts that ends in `done`; each part carries the body after it, so that a
function on bodies recurses on the data alone. Lines are those that a message names. `Body.check`
finds what is wrong with a body that has been read, `Body.settled` completes the lines of tags that
extend a template, `Body.names` are the names that its expressions use.
-/

namespace Folio.Template

mutual

inductive Expr
  | text (s : String)
  | integer (n : Nat)
  | real (x : Real)
  | truth (b : Bool)
  | none
  | name (s : String)
  | member (e : Expr) (name : String)
  | item (e key : Expr)
  | call (f : Expr) (arguments : Arguments)
  | quotient (a b : Expr)
  | negative (e : Expr)
  | positive (e : Expr)
  | filtered (line : Nat) (filter : String) (e : Expr) (arguments : Arguments)
  deriving DecidableEq, Repr

inductive Arguments
  | done
  | more (e : Expr) (rest : Arguments)
  deriving DecidableEq, Repr

end

inductive Body
  | done
  | text (s : String) (next : Body)
  | print (line : Nat) (e : Expr) (next : Body)
  | conditional (line : Nat) (test : Expr) (yes no next : Body)
  | insert (line : Nat) (template : Expr) (next : Body)
  /-- A tag that extends a template. A second one is told of on the line `before`, that of the
  part in front of it. -/
  | inherit (line before : Nat) (template : Expr) (next : Body)
  | block (line : Nat) (name : String) (body next : Body)
  deriving DecidableEq, Repr

/-- The filters that there are. -/
def knownFilters : List String := ["squish"]

mutual

/-- The first filter of an expression that is not known, outer ones first, and its line. -/
def Expr.unknownFilter? : Expr → Option (String × Nat)
  | .filtered line filter e arguments =>
    if knownFilters.contains filter then e.unknownFilter?.or arguments.unknownFilter?
    else some (filter, line)
  | .member e _ | .negative e | .positive e => e.unknownFilter?
  | .item a b | .quotient a b => a.unknownFilter?.or b.unknownFilter?
  | .call f arguments => f.unknownFilter?.or arguments.unknownFilter?
  | .text _ | .integer _ | .real _ | .truth _ | .none | .name _ => Option.none

def Arguments.unknownFilter? : Arguments → Option (String × Nat)
  | .done => Option.none
  | .more e rest => e.unknownFilter?.or rest.unknownFilter?

end

mutual

/-- The names that an expression uses, in order. -/
def Expr.names : Expr → List String
  | .name s => [s]
  | .filtered _ _ e arguments => e.names ++ arguments.names
  | .member e _ | .negative e | .positive e => e.names
  | .item a b | .quotient a b => a.names ++ b.names
  | .call f arguments => f.names ++ arguments.names
  | .text _ | .integer _ | .real _ | .truth _ | .none => []

def Arguments.names : Arguments → List String
  | .done => []
  | .more e rest => e.names ++ rest.names

end

/-- Whether an expression is written as the value that it has. -/
def Expr.isLiteral : Expr → Bool
  | text _ | integer _ | real _ | truth _ | none => true
  | _ => false

namespace Body

/-- The blocks of a body with their lines, outer ones before those inside. -/
def blocks : Body → List (String × Nat × Body)
  | done => []
  | text _ next | print _ _ next | insert _ _ next | inherit _ _ _ next => next.blocks
  | conditional _ _ yes no next => yes.blocks ++ no.blocks ++ next.blocks
  | block line name body next => (name, line, body) :: body.blocks ++ next.blocks

/-- The first block whose name an earlier one has. -/
def repeatedBlock? : List String → List (String × Nat × Body) → Option (String × Nat)
  | _, [] => none
  | seen, (name, line, _) :: rest =>
    if seen.contains name then some (name, line) else repeatedBlock? (name :: seen) rest

/-- The names that the expressions of a body use, in order, without those inside its blocks. -/
def names : Body → List String
  | done => []
  | text _ next | block _ _ _ next => next.names
  | print _ e next | insert _ e next | inherit _ _ e next => e.names ++ next.names
  | conditional _ test yes no next => test.names ++ yes.names ++ no.names ++ next.names

/-- Whether a body extends a template, its blocks included. -/
def inherits : Body → Bool
  | done => false
  | inherit _ _ _ _ => true
  | text _ next | print _ _ next | insert _ _ next => next.inherits
  | conditional _ _ yes no next => yes.inherits || no.inherits || next.inherits
  | block _ _ body next => body.inherits || next.inherits

/-! ## Names of one form -/

/-- The last of some names that have the same normal form. -/
def representative (names : List String) (name : String) : String :=
  let form := Text.normalName name
  (names.reverse.find? fun other => Text.normalName other = form).getD name

/-- The names of a body that another name of the same normal form stands for. -/
def renamed (body : Body) : List (String × String) :=
  let names := body.names
  if names.all fun name => name.toList.all fun c => c.toNat < 128 then []
  else names.map fun name => (name, representative names name)

/-! ## Checks -/

/-- Where a part stands: in a template's own body and not in a block's, inside a conditional, and
behind a tag that is known to extend a template. -/
structure Place where
  isTemplate : Bool
  isConditional : Bool
  extended : Bool
  deriving DecidableEq, Repr

/-- Filters have to be known, but inside conditionals that is left to their use. -/
def checkExpr (place : Place) (e : Expr) : Except Defect Unit :=
  match e.unknownFilter? with
  | some (filter, line) =>
    if place.isConditional then .ok () else .error (.onLine (.unknownFilter filter) line)
  | none => .ok ()

/-- Checks the parts of a body. Prints that are never shown are not checked, nor is what follows a
template that is surely extended twice. -/
def check (place : Place) : Body → Except Defect Unit
  | done => .ok ()
  | text _ next | block _ _ _ next => next.check place
  | print _ e next => do
    if !(place.isTemplate && place.extended) then checkExpr place e
    next.check place
  | conditional _ test yes no next => do
    checkExpr place test
    yes.check { place with isConditional := true }
    no.check { place with isConditional := true }
    next.check place
  | insert _ e next => do
    checkExpr place e
    next.check place
  | inherit line _ e next =>
    if !place.isTemplate then .error (.onLine .nestedExtends line)
    else if place.extended then .ok ()
    else do
      checkExpr place e
      next.check { place with extended := !place.isConditional }

/-- How deep the parts of a body lie inside conditionals and what comes with other parts. Where a
part may turn out not to be shown, it is `guarded` by a conditional of its own. -/
def depth (guarded : Bool) : Body → Nat
  | done => 0
  | text _ next | print _ _ next | block _ _ _ next =>
    max (if guarded then 1 else 0) (next.depth guarded)
  | insert _ _ next => max 2 (next.depth guarded)
  | inherit _ _ _ next => max 1 (next.depth guarded)
  | conditional _ _ yes (conditional line test yes' no' done) next =>
    max (yes.depth guarded + 1)
      (max ((conditional line test yes' no' done).depth guarded) (next.depth guarded))
  | conditional _ _ yes no next =>
    max (yes.depth guarded + 1) (max (no.depth guarded + 1) (next.depth guarded))

/-- The greatest depth of a body. -/
def maxDepth : Nat := 98

/-- Checks a template's body and its blocks. -/
def checkTemplate (body : Body) : Except Defect Unit := do
  let blocks := body.blocks
  if let some (name, line) := repeatedBlock? [] blocks then
    throw (.onLine (.blockTwice name) line)
  body.check ⟨true, false, false⟩
  blocks.forM fun (_, _, b) => b.check ⟨false, false, false⟩
  if maxDepth < body.depth body.inherits ∨ blocks.any fun (_, _, b) => maxDepth < b.depth false then
    throw (.crash .deepConditionals)

/-! ## Lines -/

/-- The line that a print leaves behind; those that are never shown and those of a literal leave
none. -/
def printLine (place : Place) (line here : Nat) (e : Expr) : Nat :=
  if (place.isTemplate && place.extended) || e.isLiteral then line else here

/-- The line that a block leaves behind. -/
def blockLine (place : Place) (line here : Nat) : Nat :=
  if place.isTemplate && place.extended then line else here

/-- The line of the last part of a body that leaves one; `line` if there is none. -/
def lastLine (place : Place) (line : Nat) : Body → Nat
  | done => line
  | text _ next => next.lastLine place line
  | print here e next => next.lastLine place (printLine place line here e)
  | block here _ _ next => next.lastLine place (blockLine place line here)
  | insert here _ next => next.lastLine place here
  | inherit here _ _ next =>
    next.lastLine { place with extended := place.extended || !place.isConditional } here
  | conditional here _ yes no next =>
    let inner := { place with isConditional := true }
    next.lastLine place (no.lastLine inner (yes.lastLine inner here))

/-- Completes the lines of tags that extend a template. -/
def settled (place : Place) (line : Nat) : Body → Body
  | done => done
  | text s next => text s (next.settled place line)
  | print here e next =>
    print here e (next.settled place (printLine place line here e))
  | block here name body next =>
    block here name body (next.settled place (blockLine place line here))
  | insert here e next => insert here e (next.settled place here)
  | inherit here _ e next =>
    inherit here line e
      (next.settled { place with extended := place.extended || !place.isConditional } here)
  | conditional here test yes no next =>
    let inner := { place with isConditional := true }
    let middle := yes.lastLine inner here
    conditional here test (yes.settled inner here) (no.settled inner middle)
      (next.settled place (no.lastLine inner middle))

end Body

/-- A template, or a block of one: the template's name and file, what it says, and the names for
which others of the same normal form stand. -/
structure Source where
  name : String
  file : String
  body : Body
  renamed : List (String × String)
  deriving DecidableEq, Repr

/-- The template of a body. -/
def Source.ofBody (name file : String) (body : Body) : Source :=
  ⟨name, file, body, body.renamed⟩

end Folio.Template
