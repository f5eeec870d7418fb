import Folio.Script.Tree

/-!
# Edits of a script

An edit replaces a range of a source. A schedule holds one edit for each range, the one scheduled
last; `render` applies the edits from the start of the source on and skips those that begin inside
a range already replaced.
-/

namespace Folio.Script

structure Edit where
  start : Nat
  stop : Nat
  text : String
  deriving DecidableEq, Repr

namespace Edit

def sameRange (a b : Edit) : Bool :=
  a.start == b.start && a.stop == b.stop

/-- The edit that replaces a reference; the shorthand of a property keeps its key. -/
def ofReference (r : Reference) (text : String) : Edit :=
  ⟨r.start, r.stop, if r.shorthand then s!"{r.name}: {text}" else text⟩

def ofArgument (a : Argument) (text : String) : Edit :=
  ⟨a.start, a.stop, text⟩

def ofNode (node : Node) (text : String) : Edit :=
  match node with
  | .call c => ⟨c.start, c.stop, text⟩
  | .reference r => ofReference r text

/-- The edit that gives a node a new text, if it has one. -/
def ofText (entry : Node × Option String) : Option Edit :=
  entry.2.map (ofNode entry.1)

/-- Adds an edit to a schedule in place of one of the same range. -/
def schedule (edits : List Edit) (e : Edit) : List Edit :=
  edits.filter (!·.sameRange e) ++ [e]

def isBefore (a b : Edit) : Bool :=
  a.start < b.start || (a.start == b.start && a.stop ≤ b.stop)

end Edit

/-- The characters of a source from `cursor` on under edits in ascending order. -/
def splice (cursor : Nat) (source : List Char) : List Edit → List Char
  | [] => source
  | e :: edits =>
    if e.start < cursor then splice cursor source edits
    else
      source.take (e.start - cursor) ++ e.text.toList
        ++ splice e.stop (source.drop (e.stop - cursor)) edits

/-- The source under all scheduled edits. -/
def render (source : List Char) (edits : List Edit) : List Char :=
  splice 0 source (edits.mergeSort Edit.isBefore)

/-- The edits that give some nodes new texts; a node without one stays as it is. -/
def editsFor (texts : List (Node × Option String)) : List Edit :=
  (texts.filterMap Edit.ofText).foldl Edit.schedule []

/-- The edits that a visitor asks for along some nodes. -/
def editsOf (visit : Node → Option String) (nodes : List Node) : List Edit :=
  editsFor (nodes.map fun node => (node, visit node))

/-- The tree's source with new texts for some nodes. -/
def Tree.substitute (texts : List (Node × Option String)) (tree : Tree) : List Char :=
  render tree.source (editsFor texts)

end Folio.Script
