import Folio.Template.Body
import Folio.Template.Lexer

/-!
# From tokens to bodies

`parse` reads a template. Loops are bounded by the number of tokens. What lies inside something
else takes room, of which there is a fixed amount: more for an expression than for a tag. A
template that nests too deep for the room is told to do so without end.
-/

namespace Folio.Template

/-- Reads something off the front of some tokens. -/
abbrev Read := StateT (List Token) (Except Defect)

namespace Read

/-- The first token, which stays. -/
def peek : Read Token :=
  return firstToken (← get)

/-- Leaves a token out. -/
def advance : Read Unit :=
  modify fun tokens => tokens.drop 1

/-- How many tokens are left. -/
def remaining : Read Nat :=
  return (← get).length

/-- Fails at a token that does not fit. -/
def refuse {α : Type} (t : Token) (cause : Cause) : Read α :=
  throw (t.refuse cause)

/-- Fails at a token where another was wanted. -/
def want {α : Type} (what : String) (t : Token) : Read α :=
  match t.kind with
  | .finish => throw (.onLine (.unexpectedEnd what) t.line)
  | kind => refuse t (.expectedToken what kind.describe)

/-- Leaves a wanted token out. -/
def expect (kind : TokenKind) : Read Unit := do
  let t ← peek
  if t.kind = kind then advance else want kind.describe t

/-- Leaves a token out if it is of a kind, and answers whether it was. -/
def skip (kind : TokenKind) : Read Bool := do
  let t ← peek
  if t.kind = kind then
    advance
    return true
  else return false

/-- A wanted name. -/
def name : Read String := do
  let t ← peek
  match t.kind with
  | .name n =>
    advance
    return n
  | _ => want "name" t

end Read

open Read

/-! ## Expressions -/

/-- An expression and the line that a message about it names. -/
structure Placed where
  expr : Expr
  line : Nat
  deriving DecidableEq, Repr

/-- The literals among the names. -/
def nameExpr (s : String) : Expr :=
  if s = "true" ∨ s = "True" then .truth true
  else if s = "false" ∨ s = "False" then .truth false
  else if s = "none" ∨ s = "None" then .none
  else .name s

/-- The strings that follow a string and belong to it. -/
def adjacentStrings : List Token → String × List Token
  | ⟨.string s, _⟩ :: rest => let (more, rest) := adjacentStrings rest; (s ++ more, rest)
  | rest => ("", rest)

section Levels

/- What reads an expression one level further inside. -/
variable (inner : Read Placed)

/-- The arguments of a call, up to its closing bracket. -/
def readArguments : Nat → Read Arguments
  | 0 => return .done
  | bound + 1 => do
    let e ← inner
    if ← skip (.symbol ")") then return .more e.expr .done
    expect (.symbol ",")
    if ← skip (.symbol ")") then return .more e.expr .done
    return .more e.expr (← readArguments bound)

/-- The arguments of a call behind its opening bracket. -/
def readCall : Read Arguments := do
  if ← skip (.symbol ")") then return .done
  readArguments inner (← remaining)

/-- What is read behind the point of a member. -/
def readMember (e : Expr) : Read Expr := do
  let t ← peek
  advance
  let next ← peek
  match t.kind, next.kind with
  | .broken d, _ | _, .broken d => throw d
  | .name n, _ => return .member e n
  | .integer n, _ => return .item e (.integer n)
  | _, _ => refuse t .expectedMember

/-- Members, items and calls behind an expression. -/
def readPostfixes : Nat → Placed → Read Placed
  | 0, e => return e
  | bound + 1, e => do
    let line := (← peek).line
    if ← skip (.symbol ".") then
      readPostfixes bound ⟨← readMember e.expr, line⟩
    else if ← skip (.symbol "[") then
      let key ← inner
      expect (.symbol "]")
      readPostfixes bound ⟨.item e.expr key.expr, line⟩
    else if ← skip (.symbol "(") then
      readPostfixes bound ⟨.call e.expr (← readCall inner), line⟩
    else return e

/-- Filters, and calls of what they give, behind an expression. -/
def readFilters : Nat → Placed → Read Placed
  | 0, e => return e
  | bound + 1, e => do
    let line := (← peek).line
    if ← skip (.symbol "|") then
      let line := (← peek).line
      let filter ← Read.name
      let arguments ← if ← skip (.symbol "(") then readCall inner else pure .done
      readFilters bound ⟨.filtered line filter e.expr arguments, line⟩
    else if ← skip (.symbol "(") then
      readFilters bound ⟨.call e.expr (← readCall inner), line⟩
    else return e

/-- A name, literal or expression in parentheses. -/
def readPrimary : Read Placed := do
  let t ← peek
  match t.kind with
  | .name s => advance; return ⟨nameExpr s, t.line⟩
  | .string s =>
    advance
    let more ← modifyGet adjacentStrings
    return ⟨.text (s ++ more), t.line⟩
  | .integer n => advance; return ⟨.integer n, t.line⟩
  | .real x => advance; return ⟨.real x, t.line⟩
  | .symbol "(" =>
    advance
    let e ← inner
    expect (.symbol ")")
    return e
  | kind => refuse t (.unexpectedToken kind.describe)

/-- A primary with signs before and members, items and calls behind. -/
def readSigned : Nat → Read Placed
  | 0 => readPrimary inner
  | bound + 1 => do
    let line := (← peek).line
    if ← skip (.symbol "-") then return ⟨.negative (← readSigned bound).expr, line⟩
    if ← skip (.symbol "+") then return ⟨.positive (← readSigned bound).expr, line⟩
    readPostfixes inner (bound + 1) (← readPrimary inner)

def readOperand : Read Placed := do
  let n ← remaining
  readFilters inner n (← readSigned inner n)

/-- Further divisors of an expression. A quotient is on the line of what it begins with, one of a
quotient on that of its sign. -/
def readDivisors : Nat → Nat → Placed → Read Placed
  | 0, _, e => return e
  | bound + 1, line, e => do
    if ← skip (.symbol "/") then
      let b ← readOperand inner
      readDivisors bound (← peek).line ⟨.quotient e.expr b.expr, line⟩
    else return e

end Levels

/-- An expression with at most `levels` levels of brackets. -/
def readExpr : Nat → Read Placed
  | 0 => throw (.anywhere .endlessNesting)
  | levels + 1 => do
    let inner := readExpr levels
    let line := (← peek).line
    let n ← remaining
    readDivisors inner n line (← readOperand inner)

/-- The room that a level of brackets takes, and a level of tags. -/
def exprRoom : Nat := 14
def tagRoom : Nat := 4

/-- The room that a template has. -/
def templateRoom : Nat := 960

/-- An expression that a mark has to hold. -/
def readHeld (room : Nat) : Read Placed := do
  let t ← peek
  if t.kind = .printEnd ∨ t.kind = .tagEnd then refuse t (.missingExpression t.kind.describe)
  else readExpr (room / exprRoom)

/-! ## Bodies -/

/-- The end of a tag behind which a body begins; a colon may stand before it. -/
def expectTagEnd : Read Unit := do
  let _ ← skip (.symbol ":")
  expect .tagEnd

section Bodies

/- What reads a body inside a tag, up to one of the first awaited tags. -/
variable (inside : TagContext → Read Body)

/-- A body inside a tag, behind the tag's end, up to a tag that ends it. -/
def readInside (tags : List String) (tag : String) (context : TagContext) : Read Body := do
  let context : TagContext := ⟨tags :: context.awaited, tag :: context.opened⟩
  expectTagEnd
  let body ← inside context
  let t ← peek
  if t.kind = .finish then refuse t (.unknownTag none context) else return body

/-- The branches of a conditional after its test, up to the end of its last tag's name. -/
def readBranches (room : Nat) (context : TagContext) : Nat → Read (Body × Body)
  | 0 => return (.done, .done)
  | bound + 1 => do
    let yes ← readInside inside ["elif", "else", "endif"] "if" context
    if ← skip (.name "elif") then
      let line := (← peek).line
      let test ← readHeld room
      let (yes', no') ← readBranches room context bound
      return (yes, .conditional line test.expr yes' no' .done)
    else if ← skip (.name "else") then
      let no ← readInside inside ["endif"] "if" context
      advance
      return (yes, no)
    else
      advance
      return (yes, .done)

/-- The name of a block and its body, behind the tag's name. -/
def readBlock (context : TagContext) : Read (String × Body) := do
  let name ← Read.name
  let _ ← skip (.name "scoped")
  let t ← peek
  if t.kind = .symbol "-" then refuse t .hyphenInName
  else
    let body ← readInside inside ["endblock"] "block" context
    advance
    let _ ← skip (.name name)
    return (name, body)

/-- What a tag makes of the body behind it; `t` is the token of its name, which is `tag`. -/
def readTag (room : Nat) (context : TagContext) (t : Token) (tag : String) :
    Read (Body → Body) := do
  if tag = "if" then
    advance
    let test ← readHeld room
    let (yes, no) ← readBranches inside room context (← remaining)
    return .conditional t.line test.expr yes no
  else if tag = "include" then
    advance
    return .insert t.line (← readExpr (room / exprRoom)).expr
  else if tag = "extends" then
    advance
    return .inherit t.line t.line (← readExpr (room / exprRoom)).expr
  else if tag = "block" then
    advance
    let (name, body) ← readBlock inside context
    return .block t.line name body
  else refuse t (.unknownTag (some tag) context)

end Bodies

/-- Reads a body of at most `bound` tokens up to one of the first awaited tags, or to the end of
the template. What is left begins with the tag's name, or with the end. -/
def readBody : Nat → Nat → TagContext → Read Body
  | 0, _, _ => return .done
  | bound + 1, room, context => do
    let inside (context : TagContext) : Read Body :=
      if room < 2 * tagRoom then throw (.anywhere .endlessNesting)
      else readBody bound (room - tagRoom) context
    let next (part : Body → Body) : Read Body := return part (← readBody bound room context)
    let t ← peek
    match t.kind with
    | .finish => return .done
    | .text s =>
      advance
      next (.text s)
    | .printBegin =>
      advance
      let e ← readHeld room
      expect .printEnd
      next (.print e.line e.expr)
    | .tagBegin =>
      advance
      let t ← peek
      match t.kind with
      | .name tag =>
        if context.awaited.head?.any (·.contains tag) then return .done
        else
          let part ← readTag inside room context t tag
          expect .tagEnd
          next part
      | _ => refuse t .missingTagName
    | kind => refuse t (.unexpectedToken kind.describe)

/-- Reads the body of a template. -/
def parse (source : String) : Except Defect Body := do
  let tokens := scan source
  let body ← (readBody (tokens.length + 1) templateRoom ⟨[], []⟩).run' tokens
  body.checkTemplate
  return body.settled ⟨true, false, false⟩ 1

end Folio.Template
