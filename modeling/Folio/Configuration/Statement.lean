import Folio.Configuration.Token
import Folio.Table

/-!
# Statements of a configuration

A statement gives names a value, or is a value that goes nowhere. A value is a string, a number, a
truth value or nothing, perhaps behind signs, or that of a name above. `statements` reads them all
and `evaluate` tells what each name has in the end. Where a token does not fit, what cannot be a
token further on is told of instead.
-/

namespace Folio.Configuration

open Text

inductive Sign
  | plus
  | minus
  | complement
  deriving DecidableEq, Repr

def Sign.text : Sign → String
  | plus => "+"
  | minus => "-"
  | complement => "~"

/-- A value as it is written; `none` stands for one that is no scalar. -/
inductive Term
  | value (v : Option Scalar)
  | ellipsis
  | name (s : String)
  | signed (sign : Sign) (t : Term)
  | negated (t : Term)
  deriving DecidableEq, Repr

/-- The names that are given a value, in order, and the value. -/
structure Statement where
  targets : List String
  term : Term
  deriving DecidableEq, Repr

/-! ## Reading -/

/-- Reads something off the front of some tokens. -/
abbrev Read := StateT (List Token) (Except ConfigurationProblem)

def peek : Read Token :=
  return (← get).headD ⟨.finish, 1⟩

def advance : Read Unit :=
  modify fun tokens => tokens.drop 1

/-- Whether a problem further on is told of instead of one on some line. -/
def comesFirst (line : Nat) : ConfigurationProblem → Bool
  | .openBracket _ opened => opened < line
  | .afterBackslash _ | .unfinished _ => false
  | _ => true

/-- Fails with a problem on some line, or with one further on. -/
def fail {α : Type} (line : Nat) (p : ConfigurationProblem) : Read α := do
  let later := (← get).findSome? fun t =>
    match t.kind with
    | .broken q => if comesFirst line q then some q else none
    | _ => none
  throw (later.getD p)

/-- Fails at a token that does not fit. -/
def refuse {α : Type} (t : Token) : Read α :=
  match t.kind with
  | .broken p => throw p
  | .faulty (.indented line) => throw (.indented line)
  | .faulty p => fail t.line p
  | _ => fail t.line (.badLine t.line)

/-- Leaves a token out if it is of a kind, and answers whether it was. -/
def skip (kind : TokenKind) : Read Bool := do
  let t ← peek
  if t.kind = kind then
    advance
    return true
  else return false

/-- The strings that follow a string and belong to it. -/
def readStrings (line : Nat) : Nat → Option String → Read (Option String)
  | 0, s => return s
  | bound + 1, s => do
    match (← peek).kind with
    | .string more =>
      advance
      match s, more with
      | some a, some b => readStrings line bound (some (a ++ b))
      | none, none => readStrings line bound none
      | _, _ => fail line (.mixedStrings line)
    | .faulty p => fail line p
    | _ => return s

/-- The value that a word stands for. -/
def wordValue? (word : String) : Option Scalar :=
  if word = "True" then some (.truth true)
  else if word = "False" then some (.truth false)
  else if word = "None" then some .none
  else none

/-- A value behind at most `bound` signs and brackets. It may only be `negated` where no sign stands
right before it. -/
def readTerm (negated : Bool) : Nat → Read Term
  | 0 => do refuse (← peek)
  | bound + 1 => do
    let t ← peek
    match t.kind with
    | .number v => advance; return .value v
    | .name s => advance; return .name s
    | .string s =>
      advance
      let n := (← get).length
      return .value ((← readStrings t.line n s).map .text)
    | .word word =>
      match wordValue? word with
      | some v => advance; return .value (some v)
      | none =>
        if word = "not" && negated then
          advance
          return .negated (← readTerm true bound)
        else refuse t
    | .symbol "+" => advance; return .signed .plus (← readTerm false bound)
    | .symbol "-" => advance; return .signed .minus (← readTerm false bound)
    | .symbol "~" => advance; return .signed .complement (← readTerm false bound)
    | .symbol "..." => advance; return .ellipsis
    | .symbol "(" =>
      advance
      let term ← readTerm true bound
      if ← skip (.symbol ")") then return term else refuse (← peek)
    | _ => refuse t

/-- The name that a term is as a target. -/
def targetOf (first : Bool) (t : Token) (term : Term) : Read String :=
  let other (what : String) (first : Bool) := fail t.line (.assignedValue what first t.line)
  match term, t.kind with
  | .name s, _ => if s = "__debug__" then fail t.line (.assignedName s t.line) else return s
  | .negated _, _ => other "expression" false
  | .signed _ _, _ => other "expression" first
  | .ellipsis, _ => other "ellipsis" first
  | .value _, .word word => fail t.line (.assignedName word t.line)
  | .value _, _ => other "literal" first

/-- The terms behind the first one, each given to those before; `targets` come last first. -/
def readChain (targets : List String) (t : Token) (term : Term) : Nat → Read Statement
  | 0 => return ⟨targets.reverse, term⟩
  | bound + 1 => do
    if ← skip (.symbol "=") then
      let next ← peek
      let value ← readTerm true (← get).length
      let target ← targetOf (targets.isEmpty && (← peek).kind ≠ .symbol "=") t term
      readChain (target :: targets) next value bound
    else return ⟨targets.reverse, term⟩

def readStatement : Read Statement := do
  if ← skip (.word "pass") then return ⟨[], .value none⟩
  let t ← peek
  let bound := (← get).length
  readChain [] t (← readTerm true bound) bound

/-- The statements up to the end. -/
def readStatements : Nat → Read (List Statement)
  | 0 => return []
  | bound + 1 => do
    if (← peek).kind = .finish then return []
    let s ← readStatement
    if ← skip (.symbol ";") then
      let _ ← skip .lineEnd
      return s :: (← readStatements bound)
    else if ← skip .lineEnd then return s :: (← readStatements bound)
    else refuse (← peek)

/-- The statements of a text. -/
def statements (s : List Char) : Except ConfigurationProblem (List Statement) :=
  let tokens := scan s
  (readStatements (tokens.length + 1)).run' tokens

/-! ## Evaluation -/

/-- The names that have a value, which may be no scalar. -/
abbrev Values := List (String × Option Scalar)

/-- The whole number behind a sign. -/
def Sign.ofInteger : Sign → Int → Int
  | plus, n => n
  | minus, n => -n
  | complement, n => -n - 1

/-- The value behind a sign. -/
def Sign.apply (sign : Sign) : Option Scalar → Except ConfigurationProblem (Option Scalar)
  | some (.integer n) => .ok (some (.integer (sign.ofInteger n)))
  | some (.truth b) => .ok (some (.integer (sign.ofInteger (if b then 1 else 0))))
  | some (.real x) =>
    match sign with
    | plus => .ok (some (.real x))
    | minus => .ok (some (.real x.negate))
    | complement => .error (.wrongOperand sign.text "float")
  | some (.text _) => .error (.wrongOperand sign.text "str")
  | some .none => .error (.wrongOperand sign.text "NoneType")
  | none => if sign = .complement then .error (.wrongOperand sign.text "complex") else .ok none

/-- Whether a value counts as true. -/
def isTrue : Option Scalar → Bool
  | some .none | some (.truth false) | some (.integer 0) | some (.text "") => false
  | some (.real x) => !x.isZero
  | _ => true

/-- The value of a term. -/
def Term.eval (values : Values) : Term → Except ConfigurationProblem (Option Scalar)
  | .value v => .ok v
  | .ellipsis => .ok none
  | .name s => (values.lookup s).elim (.error (.unknownName s)) .ok
  | .signed sign t => do sign.apply (← t.eval values)
  | .negated t => do return some (.truth !(isTrue (← t.eval values)))

/-- The values of all names that some statements give one. -/
def evaluate (values : Values) : List Statement → Except ConfigurationProblem Values
  | [] => .ok values
  | s :: rest => do
    let v ← s.term.eval values
    evaluate (s.targets.foldl (fun values name => Table.put name v values) values) rest

end Folio.Configuration
