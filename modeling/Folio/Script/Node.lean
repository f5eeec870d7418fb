import Folio.Script.Token
import Folio.Text.Quoted

/-!
# Script nodes

The parts of a script that a build replaces: references to names and calls of chosen functions.
A node knows its range of offsets; `Node.walk` lists nodes in source order, a call before a
reference that begins at the same place.
-/

namespace Folio.Script

/-- A name that refers to a variable. A shorthand stands for a property and its value alike. -/
structure Reference where
  name : String
  start : Nat
  shorthand : Bool
  deriving DecidableEq, Repr

def Reference.stop (r : Reference) : Nat :=
  r.start + r.name.length

/-- One argument of a call with its source text, and its value if it is a plain string. -/
structure Argument where
  start : Nat
  stop : Nat
  raw : String
  literal : Option String
  deriving DecidableEq, Repr

/-- A call of a chosen function, from the function's name to the closing bracket. -/
structure Call where
  callee : Reference
  stop : Nat
  arguments : List Argument
  deriving DecidableEq, Repr

def Call.start (c : Call) : Nat :=
  c.callee.start

inductive Node
  | call (c : Call)
  | reference (r : Reference)
  deriving DecidableEq, Repr

namespace Node

def start : Node → Nat
  | call c => c.start
  | reference r => r.start

def stop : Node → Nat
  | call c => c.stop
  | reference r => r.stop

/-- Nodes in the order of their first characters; of nodes that begin together calls come first. -/
def walk (calls : List Call) (references : List Reference) : List Node :=
  (calls.map call ++ references.map reference).mergeSort fun a b => a.start ≤ b.start

end Node

/-- The characters of a source from one offset up to another. -/
def slice (source : List Char) (start stop : Nat) : List Char :=
  (source.drop start).take (stop - start)

namespace Argument

/-- The text between the first and the last character. -/
def inner (raw : List Char) : List Char :=
  (raw.drop 1).dropLast

/-- Whether some tokens are one quoted literal. -/
def isQuoted : List Token → Bool
  | [t] => t.kind == .doubleQuoted || t.kind == .singleQuoted
  | _ => false

/-- Whether some tokens are template text alone and stand between back quotes. -/
def isTemplate (tokens : List Token) (raw : List Char) : Bool :=
  tokens.all (·.kind == .templateText) && 2 ≤ raw.length && raw.head? == some '`'
    && raw.getLast? == some '`'

/-- The value of an argument made of some tokens, if it is a plain string. -/
def literalOf (tokens : List Token) (raw : List Char) : Option String :=
  if isQuoted tokens || isTemplate tokens raw then some (String.ofList (Text.unescape (inner raw)))
  else none

/-- The argument that a first token and the tokens after it make up. -/
def ofTokens (source : List Char) (first : Token) (more : List Token) : Argument :=
  let stop := ((first :: more).getLast?.getD first).stop
  let raw := slice source first.start stop
  ⟨first.start, stop, String.ofList raw, literalOf (first :: more) raw⟩

end Argument

end Folio.Script
