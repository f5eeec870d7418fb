import Folio.Script.Lexer
import Folio.Script.Node

/-!
# Scripts with their references and calls

`parse` reads a script and finds what a build replaces. The pass goes over the significant tokens
once and keeps a stack of scopes, one for each open bracket, that tells an object literal from a
block and a binding pattern from an expression. `State.step` is one token of the pass; a reported
call takes its whole argument list with it, and `step` answers how many tokens that are.
-/

namespace Folio.Script

/-! ## Scopes -/

/-- What the tokens inside a pair of brackets are. -/
inductive ScopeKind
  | paren
  | bracket
  | block
  | object
  | classBody
  | pattern
  | params
  | substitution
  deriving DecidableEq, Repr

structure Scope where
  kind : ScopeKind
  /-- Whether a property of an object literal begins here. -/
  expectsKey : Bool
  /-- Conditional operators whose colon has not come. -/
  conditionals : Nat
  /-- Whether a list of declared variables is going on. -/
  declaring : Bool
  /-- The references found before the scope opened, newest first. -/
  before : List Reference
  deriving DecidableEq, Repr

def Scope.opened (kind : ScopeKind) (before : List Reference) : Scope :=
  ⟨kind, kind = .object, 0, false, before⟩

structure State where
  scope : Scope
  /-- For each open bracket, innermost first, its token and the scope around it. -/
  outer : List (Token × Scope)
  /-- Whether the next brace opens a class body. -/
  pendingClass : Bool
  /-- Whether the next parenthesis opens a parameter list. -/
  pendingParams : Bool
  /-- References found so far, newest first. -/
  references : List Reference
  /-- Calls found so far, newest first. -/
  calls : List Call
  deriving DecidableEq, Repr

def State.initial : State :=
  ⟨Scope.opened .block [], [], false, false, [], []⟩

/-! ## Tokens in context -/

def objectKeywords : List String :=
  ["return", "yield", "await", "default", "throw", "in", "of", "case"]

def keyModifiers : List String :=
  ["get", "set", "async", "static", "*"]

def variableKeywords : List String :=
  ["var", "let", "const"]

def textIs (text : String) (t : Option Token) : Bool :=
  t.any (·.text == text)

def textIn (texts : List String) (t : Option Token) : Bool :=
  t.any (texts.contains ·.text)

def kindIs (kind : Kind) (t : Option Token) : Bool :=
  t.any (·.kind == kind)

def punctuationIs (text : String) (t : Option Token) : Bool :=
  t.any (·.isPunctuation text)

/-- Whether a token after `.` names a member. -/
def isMember (previous : Option Token) : Bool :=
  punctuationIs "." previous

/-- Whether a declaration list ends before a token: after a semicolon, or at a line break that
neither side lets go on. -/
def endsDeclaration (previous : Option Token) (t : Token) : Bool :=
  match previous with
  | none => false
  | some p =>
    if p.isPunctuation ";" then true
    else if !t.afterBreak then false
    else if p.kind == .operator || p.isPunctuation "," || p.kind == .declaration then false
    else !(t.kind == .operator || t.isPunctuation "," || t.isPunctuation "."
      || t.isPunctuation "(" || t.isPunctuation "[")

/-- What an opening bracket begins. -/
def openerKind (s : State) (text : String) (previous : Option Token) : ScopeKind :=
  if text = "(" then if s.pendingParams then .params else .paren
  else if text = "\x7b" ∧ s.pendingClass then .classBody
  else if s.scope.kind = .pattern ∨ s.scope.kind = .params then .pattern
  else if kindIs .declaration previous then .pattern
  else if s.scope.declaring ∧ punctuationIs "," previous then .pattern
  else if text = "[" then .bracket
  else
    match previous with
    | none => .block
    | some p =>
      if p.kind.isKeyword ∧ (p.text = "import" ∨ p.text = "export") then .pattern
      else if p.kind = .substitution then .object
      else if p.kind = .operator then
        if p.text = ":" ∧ (s.scope.kind = .block ∨ s.scope.kind = .classBody) then
          if s.scope.conditionals ≠ 0 then .object else .block
        else .object
      else if p.kind = .punctuation then
        if p.text = "(" ∨ p.text = "[" ∨ p.text = "," ∨ p.text = "..." then .object else .block
      else if p.kind.isKeyword ∧ objectKeywords.contains p.text then .object
      else .block

/-! ## Brackets -/

/-- Goes into a scope that a bracket opens. -/
def State.enter (s : State) (opener : Token) (kind : ScopeKind) : State :=
  { s with scope := Scope.opened kind s.references, outer := (opener, s.scope) :: s.outer }

/-- The text that closes a scope. -/
def Scope.closer (scope : Scope) (opener : Token) : String :=
  if scope.kind = .substitution then "\x7d" else (Token.closerOf opener.text).getD ""

/-- Leaves the current scope at a closing bracket that has to match. -/
def State.leave (s : State) (t : Token) (closer : String) : Except Defect State :=
  match s.outer with
  | [] => .error ⟨.unexpectedCloser closer, t.start⟩
  | (opener, scope) :: outer =>
    let expected := s.scope.closer opener
    if closer = expected then .ok { s with scope, outer }
    else .error ⟨.mismatched expected opener.text closer, t.start⟩

/-! ## Calls -/

/-- The tokens up to the bracket that closes `depth + 1` open ones, and that bracket. -/
def takeClosed : Nat → List Token → Option (List Token × Token)
  | _, [] => none
  | depth, t :: r =>
    if t.opens then (takeClosed (depth + 1) r).map fun (inside, close) => (t :: inside, close)
    else if t.closes then
      match depth with
      | 0 => some ([], t)
      | depth + 1 => (takeClosed depth r).map fun (inside, close) => (t :: inside, close)
    else (takeClosed depth r).map fun (inside, close) => (t :: inside, close)

/-- The arguments between the commas outside brackets. `group` holds the tokens of the current
argument, newest first; a comma may follow the last argument but none may be empty. -/
def splitArguments (source : List Char) : Nat → List Token → List Token →
    Except Defect (List Argument)
  | _, group, [] =>
    match group.reverse with
    | [] => .ok []
    | first :: more => .ok [Argument.ofTokens source first more]
  | depth, group, t :: r =>
    let depth := if t.opens then depth + 1 else if t.closes then depth - 1 else depth
    if depth = 0 ∧ t.isPunctuation "," then
      match group.reverse with
      | [] => .error ⟨.emptyArgument, t.start⟩
      | first :: more =>
        (splitArguments source 0 [] r).map (Argument.ofTokens source first more :: ·)
    else splitArguments source depth (t :: group) r

/-- The call of `callee` whose argument list the next tokens hold, and their number. -/
def callAt (source : List Char) (callee : Token) (rest : List Token) : Except Defect (Call × Nat) :=
  match rest with
  | [] => .error ⟨.unclosedCall callee.text, callee.stop⟩
  | opener :: rest =>
    match takeClosed 0 rest with
    | none => .error ⟨.unclosedCall callee.text, opener.start⟩
    | some (inside, close) =>
      match splitArguments source 0 [] inside with
      | .error defect => .error defect
      | .ok arguments =>
        .ok (⟨⟨callee.text, callee.start, false⟩, close.stop, arguments⟩, inside.length + 2)

/-! ## Names -/

/-- Whether a name is made of ASCII at its start and of word characters. -/
def isSimpleName (name : String) : Bool :=
  match name.toList with
  | [] => false
  | c :: r =>
    (Text.isAsciiLetter c || c == '_' || c == '$') && r.all fun d => Text.isWord d || d == '$'

/-- What a plain name is at its place. -/
inductive Role
  /-- A member, a binding or a key. -/
  | passive
  /-- The name of a class member; it is a method if parameters follow. -/
  | classMember (method : Bool)
  | shorthand
  | call
  | reference
  deriving DecidableEq, Repr

/-- Whether a name before `following` binds or names a member and so refers to nothing. -/
def isPassive (s : State) (previous : Option Token) (t : Token) (following : Option Token) : Bool :=
  !isSimpleName t.text || isMember previous
    || kindIs .declaration previous || textIn ["import", "as"] previous
    || (s.scope.declaring && punctuationIs "," previous)
    || s.scope.kind == .pattern || s.scope.kind == .params
    || textIs "=>" following

def startsClassMember (s : State) (previous : Option Token) : Bool :=
  s.scope.kind == .classBody
    && (previous.isNone || textIn ["\x7b", "\x7d", ";"] previous || textIn keyModifiers previous)

def roleOf (names : List String) (s : State) (previous : Option Token) (t : Token)
    (following : Option Token) : Role :=
  if isPassive s previous t following then .passive
  else if startsClassMember s previous then .classMember (textIs "(" following)
  else if s.scope.kind = .object ∧ s.scope.expectsKey then
    if textIn [",", "\x7d"] following then .shorthand else .passive
  else if names.contains t.text ∧ textIs "(" following then .call
  else .reference

/-- Takes note of a plain name; the number is that of the further tokens that a call takes. -/
def State.name (source : List Char) (names : List String) (s : State) (previous : Option Token)
    (t : Token) (rest : List Token) : Except Defect (State × Nat) :=
  match roleOf names s previous t rest.head? with
  | .passive => .ok (s, 0)
  | .classMember method => .ok ({ s with pendingParams := method }, 0)
  | .shorthand => .ok ({ s with references := ⟨t.text, t.start, true⟩ :: s.references }, 0)
  | .reference => .ok ({ s with references := ⟨t.text, t.start, false⟩ :: s.references }, 0)
  | .call =>
    match callAt source t rest with
    | .error defect => .error defect
    | .ok (call, taken) => .ok ({ s with calls := call :: s.calls }, taken)

/-! ## The pass -/

def State.modifyScope (s : State) (f : Scope → Scope) : State :=
  { s with scope := f s.scope }

/-- The key of an object literal's property is past. -/
def Scope.pastKey (scope : Scope) : Scope :=
  if scope.kind = .object then { scope with expectsKey := false } else scope

/-- How an object literal's property begins. -/
inductive KeyRole
  | key (method : Bool)
  | modifier
  | value
  deriving DecidableEq, Repr

def keyRole (s : State) (t : Token) (following : Option Token) : KeyRole :=
  if s.scope.kind ≠ .object ∨ !s.scope.expectsKey ∨
      (t.kind = .punctuation ∧ (t.opens ∨ t.closes)) then .value
  else if textIn [":", "("] following then .key (textIs "(" following)
  else if keyModifiers.contains t.text ∧ following.isSome ∧ !textIn [",", "\x7d"] following then
    .modifier
  else .value

/-- Counts the conditional operators that wait for their colon; `?.` is none. -/
def Scope.countConditional (scope : Scope) (t : Token) (following : Option Token) : Scope :=
  if t.kind ≠ .operator then scope
  else if t.text = "?" ∧ !following.any (fun f => f.text == "." && f.start == t.stop) then
    { scope with conditionals := scope.conditionals + 1 }
  else if t.text = ":" then { scope with conditionals := scope.conditionals - 1 }
  else scope

/-- Takes note of a declaring word. -/
def State.declare (s : State) (text : String) : State :=
  if variableKeywords.contains text then s.modifyScope ({ · with declaring := true })
  else if text = "class" then { s with pendingClass := true }
  else if text = "function" then { s with pendingParams := true }
  else s

/-- A bracket that opens. -/
def State.opening (s : State) (previous : Option Token) (t : Token) : State :=
  let kind := openerKind s t.text previous
  let s :=
    if t.text = "(" then { s with pendingParams := false }
    else if kind = .classBody then { s with pendingClass := false }
    else s
  (s.modifyScope Scope.pastKey).enter t kind

/-- A bracket that closes. The references inside the parameter list of an arrow function are
bindings and are dropped. -/
def State.closing (s : State) (t : Token) (following : Option Token) : Except Defect State :=
  match s.leave t t.text with
  | .error defect => .error defect
  | .ok left =>
    if s.scope.kind = .paren ∧ textIs "=>" following then
      .ok { left with references := s.scope.before }
    else .ok left

/-- A token that is neither a bracket nor a property key. -/
def State.plain (source : List Char) (names : List String) (s : State) (previous : Option Token)
    (t : Token) (rest : List Token) : Except Defect (State × Nat) :=
  let s := s.modifyScope (·.countConditional t rest.head?)
  if t.kind = .declaration ∧ !isMember previous then
    .ok ((s.declare t.text).modifyScope Scope.pastKey, 0)
  else if t.kind = .plainName then
    match s.name source names previous t rest with
    | .error defect => .error defect
    | .ok (s, taken) => .ok (s.modifyScope Scope.pastKey, taken)
  else .ok (s.modifyScope Scope.pastKey, 0)

/-- The state in which a token is read: a list of declared variables may end before it. -/
def State.settle (s : State) (previous : Option Token) (t : Token) : State :=
  if s.scope.declaring && endsDeclaration previous t then
    s.modifyScope ({ · with declaring := false })
  else s

/-- One token of the pass. The number is that of the tokens of `rest` which a call takes. -/
def State.step (source : List Char) (names : List String) (s : State) (previous : Option Token)
    (t : Token) (rest : List Token) : Except Defect (State × Nat) :=
  let s := s.settle previous t
  if t.kind = .substitution then
    if t.text = "\x7d" then (s.leave t "\x7d").map (·, 0)
    else .ok (s.enter t .substitution, 0)
  else
    match keyRole s t rest.head? with
    | .key method =>
      .ok ({ s.modifyScope ({ · with expectsKey := false }) with pendingParams := method }, 0)
    | .modifier => .ok (s, 0)
    | .value =>
      if t.kind = .punctuation ∧ t.opens then .ok (s.opening previous t, 0)
      else if t.kind = .punctuation ∧ t.closes then (s.closing t rest.head?).map (·, 0)
      else if t.isPunctuation "," ∧ s.scope.kind = .object then
        .ok (s.modifyScope ({ · with expectsKey := true }), 0)
      else s.plain source names previous t rest

/-- All tokens of the pass. -/
def State.run (source : List Char) (names : List String) (s : State) (previous : Option Token) :
    List Token → Except Defect State
  | [] =>
    match s.outer with
    | [] => .ok s
    | (opener, _) :: _ => .error ⟨.unclosed opener.text, opener.start⟩
  | t :: rest =>
    match s.step source names previous t rest with
    | .error defect => .error defect
    | .ok (s, taken) =>
      s.run source names (t :: rest)[taken]? (rest.drop taken)
termination_by tokens => tokens.length
decreasing_by simp only [List.length_drop, List.length_cons]; omega

/-! ## Trees -/

structure Tree where
  source : List Char
  references : List Reference
  calls : List Call
  deriving DecidableEq, Repr

/-- Reads a script, reporting calls of the functions in `names`; every other call is a reference
to what it calls. -/
def parse (names : List String) (source : List Char) : Except Defect Tree :=
  match scan source with
  | .error defect => .error defect
  | .ok tokens =>
    match State.initial.run source names none (significant tokens) with
    | .error defect => .error defect
    | .ok s => .ok ⟨source, s.references.reverse, s.calls.reverse⟩

def Tree.walk (tree : Tree) : List Node :=
  Node.walk tree.calls tree.references

/-- A cause at an offset of a script as a fault of its file. -/
def faultAt (cause : Cause) (offset : Int) (source : List Char) (file : String) : Fault :=
  let l := Text.Location.ofOffset source offset
  ⟨cause, file, l.line, l.column⟩

def Defect.fault (defect : Defect) (source : List Char) (file : String) : Fault :=
  faultAt defect.cause defect.offset source file

end Folio.Script
