import Folio.Proofs.Script.Expression

/-!
# Scripts that bind names

Syntax trees of scripts down to what binds: functions, classes, methods, catch clauses, declarator
lists and binding patterns. All else is a sequence of tokens and matching brackets. `Code.marks`
lists the tokens of a script and marks those that bind. `Code.isClear` tells whether the pass has the
means to recognize every binding: it names the forms that it does not know.
-/

namespace Folio.Script

/-! ## Tokens -/

/-- A token that is no bracket and belongs to no template literal. -/
structure Atom where
  token : Token
  code : token.kind ≠ .substitution ∧ token.kind ≠ .templateText
  opens : Token.closerOf token.text = none
  closes : Token.isCloserText token.text = false

/-- A name where it is bound. -/
structure Binder where
  token : Token
  kind : token.kind ∈ [Kind.plainName, .otherName, .keyword]
  lexical : token.Lexical

/-- One of some declaring words. -/
structure Word (texts : List String) where
  token : Token
  declares : token.kind = .declaration
  listed : token.text ∈ texts

/-- A word or a star before the name of a method. -/
structure Modifier where
  token : Token
  kind : token.kind ∈ [Kind.plainName, .keyword, .operator]
  listed : token.text ∈ keyModifiers

/-- A back quote or some text of a template literal. -/
structure Piece where
  token : Token
  text : token.kind = .templateText

/-- One of some opening brackets, and the bracket that closes it. -/
structure Brackets (texts : List String) where
  opener : Token
  closer : Token
  punctuation : opener.kind = .punctuation ∧ closer.kind = .punctuation
  listed : opener.text ∈ texts
  matching : Token.closerOf opener.text = some closer.text

/-- The marks around an expression in a template literal. -/
structure Substitution where
  opener : Token
  closer : Token
  marks : opener.kind = .substitution ∧ closer.kind = .substitution
  opens : opener.text ≠ "\x7d"
  closes : closer.text = "\x7d"

/-! ## Trees -/

mutual

inductive Code
  | nil
  | token (t : Atom) (rest : Code)
  | template (quote : Piece) (back : quote.token.text = "`") (pieces : Template) (rest : Code)
  | group (b : Brackets ["(", "[", "\x7b"]) (inside rest : Code)
  /-- An object literal. -/
  | object (b : Brackets ["\x7b"]) (entries : Entries) (rest : Code)
  /-- A function before its body, which is a group. -/
  | function (word : Word ["function"]) (star : Option (Sign "*")) (name : Option Binder)
      (b : Brackets ["("]) (parameters : Pattern) (rest : Code)
  /-- The parameters of an arrow function; the arrow comes next. -/
  | arrow (b : Brackets ["("]) (parameters : Pattern) (rest : Code)
  | arrowOf (parameter : Binder) (rest : Code)
  | classOf (word : Word ["class"]) (name : Option Binder) (heritage : Code)
      (b : Brackets ["\x7b"]) (members : Members) (rest : Code)
  | catchOf (word : Atom) (keyword : word.token.kind = .keyword) (b : Brackets ["("])
      (parameter : Pattern) (rest : Code)
  | declaration (word : Word variableKeywords) (target : Target) (more : Declarators)

inductive Template
  | nil
  | piece (t : Piece) (rest : Template)
  | substitution (b : Substitution) (inside : Code) (rest : Template)

/-- Bound names and nested patterns, with commas, keys and defaults between them. -/
inductive Pattern
  | last (c : Code)
  | name (before : Code) (n : Binder) (rest : Pattern)
  | nested (before : Code) (b : Brackets ["[", "\x7b"]) (inside rest : Pattern)

/-- What a variable is declared with. -/
inductive Target
  | name (n : Binder)
  | pattern (b : Brackets ["[", "\x7b"]) (inside : Pattern)

/-- What follows a declared target: its value and further declarators, or its value and what comes
after the declaration. -/
inductive Declarators
  | last (rest : Code)
  | more (value : Code) (comma : Mark ",") (target : Target) (rest : Declarators)

inductive Entries
  | last (e : Entry)
  | more (e : Entry) (comma : Mark ",") (rest : Entries)

/-- A property of an object literal. -/
inductive Entry
  | keyed (key : Key) (colon : Sign ":") (value : Code)
  | method (m : Method)
  /-- A shorthand, a spread expression or nothing. -/
  | other (c : Code)

inductive Method
  | mk (modifiers : List Modifier) (name : MethodName) (b : Brackets ["("]) (parameters : Pattern)
      (braces : Brackets ["\x7b"]) (body : Code)

inductive MethodName
  | key (k : Key)
  | computed (b : Brackets ["["]) (inside : Code)

inductive Members
  | last (c : Code)
  | method (m : Method) (rest : Members)
  | field (c : Code) (semicolon : Mark ";") (rest : Members)

end

/-! ## Bindings -/

/-- Tokens, each with whether it binds. -/
abbrev Marks := List (Token × Bool)

def Token.free (t : Token) : Token × Bool :=
  (t, false)

def Token.bound (t : Token) : Token × Bool :=
  (t, true)

def Marks.tokens (marks : Marks) : List Token :=
  marks.map Prod.fst

@[simp] theorem Token.free_fst (t : Token) : t.free.1 = t := rfl

@[simp] theorem Token.bound_fst (t : Token) : t.bound.1 = t := rfl

@[simp] theorem Marks.tokens_nil : Marks.tokens [] = [] := rfl

@[simp] theorem Marks.tokens_cons (m : Token × Bool) (marks : Marks) :
    Marks.tokens (m :: marks) = m.1 :: marks.tokens := rfl

@[simp] theorem Marks.tokens_append (marks marks' : Marks) :
    Marks.tokens (marks ++ marks') = marks.tokens ++ marks'.tokens :=
  List.map_append

@[simp] theorem Marks.tokens_map {α : Type} (f : α → Token × Bool) (l : List α) :
    Marks.tokens (l.map f) = l.map fun a => (f a).1 := by
  simp [Marks.tokens]

def Brackets.around {texts : List String} (b : Brackets texts) (marks : Marks) : Marks :=
  b.opener.free :: marks ++ [b.closer.free]

mutual

def Code.marks : Code → Marks
  | .nil => []
  | .token t rest => t.token.free :: rest.marks
  | .template quote _ pieces rest => quote.token.free :: pieces.marks ++ rest.marks
  | .group b inside rest => b.around inside.marks ++ rest.marks
  | .object b entries rest => b.around entries.marks ++ rest.marks
  | .function word star name b parameters rest =>
    word.token.free :: star.toList.map (·.token.free) ++ name.toList.map (·.token.bound) ++
      b.around parameters.marks ++ rest.marks
  | .arrow b parameters rest => b.around parameters.marks ++ rest.marks
  | .arrowOf parameter rest => parameter.token.bound :: rest.marks
  | .classOf word name heritage b members rest =>
    word.token.free :: name.toList.map (·.token.bound) ++ heritage.marks ++
      b.around members.marks ++ rest.marks
  | .catchOf word _ b parameter rest => word.token.free :: b.around parameter.marks ++ rest.marks
  | .declaration word target more => word.token.free :: target.marks ++ more.marks

def Template.marks : Template → Marks
  | .nil => []
  | .piece t rest => t.token.free :: rest.marks
  | .substitution b inside rest =>
    b.opener.free :: inside.marks ++ b.closer.free :: rest.marks

def Pattern.marks : Pattern → Marks
  | .last c => c.marks
  | .name before n rest => before.marks ++ n.token.bound :: rest.marks
  | .nested before b inside rest => before.marks ++ b.around inside.marks ++ rest.marks

def Target.marks : Target → Marks
  | .name n => [n.token.bound]
  | .pattern b inside => b.around inside.marks

def Declarators.marks : Declarators → Marks
  | .last rest => rest.marks
  | .more value comma target rest => value.marks ++ comma.token.free :: target.marks ++ rest.marks

def Entries.marks : Entries → Marks
  | .last e => e.marks
  | .more e comma rest => e.marks ++ comma.token.free :: rest.marks

def Entry.marks : Entry → Marks
  | .keyed key colon value => key.token.free :: colon.token.free :: value.marks
  | .method m => m.marks
  | .other c => c.marks

def Method.marks : Method → Marks
  | .mk modifiers name b parameters braces body =>
    modifiers.map (·.token.free) ++ name.marks ++ b.around parameters.marks ++
      braces.around body.marks

def MethodName.marks : MethodName → Marks
  | .key k => [k.token.bound]
  | .computed b inside => b.around inside.marks

def Members.marks : Members → Marks
  | .last c => c.marks
  | .method m rest => m.marks ++ rest.marks
  | .field c semicolon rest => c.marks ++ semicolon.token.free :: rest.marks

end

/-! ## Matching brackets -/

theorem Atom.not_bracket (t : Atom) : t.token.opens = false ∧ t.token.closes = false := by
  simp [Token.opens, Token.closes, t.opens, t.closes]

theorem Binder.other (n : Binder) {k : Kind} (no : k ∉ [Kind.plainName, .otherName, .keyword]) :
    n.token.kind ≠ k :=
  fun same => no (same ▸ n.kind)

theorem Binder.not_bracket (n : Binder) : n.token.opens = false ∧ n.token.closes = false :=
  n.lexical.not_bracket (n.other (by decide))

theorem Word.not_bracket {texts : List String} (w : Word texts)
    (plain : ∀ text ∈ texts, Token.closerOf text = none ∧ Token.isCloserText text = false) :
    w.token.opens = false ∧ w.token.closes = false := by
  simp [Token.opens, Token.closes, plain w.token.text w.listed]

theorem Modifier.not_bracket (m : Modifier) : m.token.opens = false ∧ m.token.closes = false := by
  have plain : ∀ text ∈ keyModifiers,
      Token.closerOf text = none ∧ Token.isCloserText text = false := by decide
  simp [Token.opens, Token.closes, plain m.token.text m.listed]

theorem Piece.not_bracket (t : Piece) : t.token.opens = false ∧ t.token.closes = false := by
  simp [Token.opens, Token.closes, t.text, Kind.isString]

theorem Key.not_bracket (k : Key) : k.token.opens = false ∧ k.token.closes = false :=
  k.lexical.not_bracket k.not_punctuation

namespace Nested

variable {tokens tokens' : List Token}

theorem plain_cons {t : Token} (bracket : t.opens = false ∧ t.closes = false)
    (nested : Nested true tokens) : Nested true (t :: tokens) :=
  .plain t bracket.1 bracket.2 (Or.inl rfl) nested

theorem plain_append {words : List Token}
    (bracket : ∀ t ∈ words, t.opens = false ∧ t.closes = false) (nested : Nested true tokens) :
    Nested true (words ++ tokens) := by
  induction words with
  | nil => exact nested
  | cons t words ih =>
    exact plain_cons (bracket t (by simp)) (ih fun t' member => bracket t' (by simp [member]))

theorem around {texts : List String} (b : Brackets texts) {marks : Marks}
    (inside : Nested true marks.tokens) (nested : Nested true tokens) :
    Nested true ((b.around marks).tokens ++ tokens) := by
  have whole : (b.around marks).tokens ++ tokens = b.opener :: marks.tokens ++ b.closer :: tokens := by
    simp [Brackets.around]
  rw [whole]
  exact .brackets b.opener b.closer b.punctuation.1 b.punctuation.2 b.matching inside nested

end Nested

mutual

theorem Code.nests : ∀ c : Code, Nested true c.marks.tokens
  | .nil => .nil
  | .token t rest => .plain_cons t.not_bracket rest.nests
  | .template quote _ pieces rest => by
    simpa [Code.marks] using Nested.plain_cons quote.not_bracket (pieces.nests.append rest.nests)
  | .group b inside rest => by
    simpa [Code.marks] using Nested.around b inside.nests rest.nests
  | .object b entries rest => by
    simpa [Code.marks] using Nested.around b entries.nests rest.nests
  | .function word star name b parameters rest => by
    have marked : ∀ t ∈ star.toList.map (·.token), t.opens = false ∧ t.closes = false := by
      simpa using fun t _ => t.not_bracket rfl rfl
    have named : ∀ t ∈ name.toList.map (·.token), t.opens = false ∧ t.closes = false := by
      simpa using fun n _ => n.not_bracket
    simpa [Code.marks] using Nested.plain_cons (word.not_bracket (by decide))
      (Nested.plain_append marked (Nested.plain_append named
        (Nested.around b parameters.nests rest.nests)))
  | .arrow b parameters rest => by
    simpa [Code.marks] using Nested.around b parameters.nests rest.nests
  | .arrowOf parameter rest => .plain_cons parameter.not_bracket rest.nests
  | .classOf word name heritage b members rest => by
    have named : ∀ t ∈ name.toList.map (·.token), t.opens = false ∧ t.closes = false := by
      simpa using fun n _ => n.not_bracket
    simpa [Code.marks] using Nested.plain_cons (word.not_bracket (by decide))
      (Nested.plain_append named (heritage.nests.append
        (Nested.around b members.nests rest.nests)))
  | .catchOf word _ b parameter rest => by
    simpa [Code.marks] using Nested.plain_cons word.not_bracket
      (Nested.around b parameter.nests rest.nests)
  | .declaration word target more => by
    simpa [Code.marks] using Nested.plain_cons (word.not_bracket (by decide))
      (target.nests.append more.nests)

theorem Template.nests : ∀ pieces : Template, Nested true pieces.marks.tokens
  | .nil => .nil
  | .piece t rest => .plain_cons t.not_bracket rest.nests
  | .substitution b inside rest => by
    have opener : b.opener.opens = false ∧ b.opener.closes = false := by
      simp [Token.opens, Token.closes, b.marks, Kind.isString]
    have closer : b.closer.opens = false ∧ b.closer.closes = false := by
      simp [Token.opens, Token.closes, b.marks, Kind.isString]
    simpa [Template.marks] using Nested.plain_cons opener
      (inside.nests.append (Nested.plain_cons closer rest.nests))

theorem Pattern.nests : ∀ p : Pattern, Nested true p.marks.tokens
  | .last c => c.nests
  | .name before n rest => by
    simpa [Pattern.marks] using
      before.nests.append (Nested.plain_cons n.not_bracket rest.nests)
  | .nested before b inside rest => by
    simpa [Pattern.marks] using
      before.nests.append (Nested.around b inside.nests rest.nests)

theorem Target.nests : ∀ t : Target, Nested true t.marks.tokens
  | .name n => .plain_cons n.not_bracket .nil
  | .pattern b inside => by
    simpa [Target.marks] using Nested.around b inside.nests .nil

theorem Declarators.nests : ∀ ds : Declarators, Nested true ds.marks.tokens
  | .last rest => rest.nests
  | .more value comma target rest => by
    simpa [Declarators.marks] using value.nests.append
      (Nested.plain_cons (comma.not_bracket rfl rfl) (target.nests.append rest.nests))

theorem Entries.nests : ∀ es : Entries, Nested true es.marks.tokens
  | .last e => e.nests
  | .more e comma rest => by
    simpa [Entries.marks] using
      e.nests.append (Nested.plain_cons (comma.not_bracket rfl rfl) rest.nests)

theorem Entry.nests : ∀ e : Entry, Nested true e.marks.tokens
  | .keyed key colon value =>
    .plain_cons key.not_bracket (.plain_cons (colon.not_bracket rfl rfl) value.nests)
  | .method m => m.nests
  | .other c => c.nests

theorem Method.nests : ∀ m : Method, Nested true m.marks.tokens
  | .mk modifiers name b parameters braces body => by
    have marked : ∀ t ∈ modifiers.map (·.token), t.opens = false ∧ t.closes = false := by
      simpa using fun m _ => m.not_bracket
    simpa [Method.marks] using Nested.plain_append marked (name.nests.append
      (Nested.around b parameters.nests (Nested.around braces body.nests .nil)))

theorem MethodName.nests : ∀ n : MethodName, Nested true n.marks.tokens
  | .key k => .plain_cons k.not_bracket .nil
  | .computed b inside => by
    simpa [MethodName.marks] using Nested.around b inside.nests .nil

theorem Members.nests : ∀ ms : Members, Nested true ms.marks.tokens
  | .last c => c.nests
  | .method m rest => by
    simpa [Members.marks] using m.nests.append rest.nests
  | .field c semicolon rest => by
    simpa [Members.marks] using
      c.nests.append (Nested.plain_cons (semicolon.not_bracket rfl rfl) rest.nests)

end

/-! ## What the pass recognizes -/

/-- The last of some tokens that follow another one. -/
def lastOf (previous : Option Token) : List Token → Option Token
  | [] => previous
  | t :: rest => lastOf (some t) rest

/-- Whether a declarator list goes on at each of some tokens. -/
def goesOn (previous : Option Token) : List Token → Bool
  | [] => true
  | t :: rest => !endsDeclaration previous t && goesOn (some t) rest

mutual

/-- Whether a declarator list goes on through some code that holds no declaration of its own. -/
def Code.goesOn (previous : Option Token) : Code → Bool
  | .nil => true
  | .token t rest => !endsDeclaration previous t.token && rest.goesOn (some t.token)
  | .template quote _ pieces rest =>
    !endsDeclaration previous quote.token && pieces.goesOn (some quote.token) &&
      rest.goesOn (lastOf (some quote.token) pieces.marks.tokens)
  | .group b _ rest => !endsDeclaration previous b.opener && rest.goesOn (some b.closer)
  | .object b _ rest => !endsDeclaration previous b.opener && rest.goesOn (some b.closer)
  | .function word star name b _ rest =>
    Script.goesOn previous (word.token :: star.toList.map (·.token) ++ name.toList.map (·.token) ++
      [b.opener]) && rest.goesOn (some b.closer)
  | .arrow b _ rest => !endsDeclaration previous b.opener && rest.goesOn (some b.closer)
  | .arrowOf parameter rest =>
    !endsDeclaration previous parameter.token && rest.goesOn (some parameter.token)
  | .classOf word name heritage b _ rest =>
    let words := word.token :: name.toList.map (·.token)
    Script.goesOn previous words && heritage.goesOn (lastOf previous words) &&
      !endsDeclaration (lastOf previous (words ++ heritage.marks.tokens)) b.opener &&
      rest.goesOn (some b.closer)
  | .catchOf word _ b _ rest =>
    Script.goesOn previous [word.token, b.opener] && rest.goesOn (some b.closer)
  | .declaration .. => false

def Template.goesOn (previous : Option Token) : Template → Bool
  | .nil => true
  | .piece t rest => !endsDeclaration previous t.token && rest.goesOn (some t.token)
  | .substitution b _ rest => !endsDeclaration previous b.opener && rest.goesOn (some b.closer)

end

def Method.closer : Method → Token
  | .mk _ _ _ _ braces _ => braces.closer

/-- The last token of what a variable is declared with. -/
def Target.final : Target → Token
  | .name n => n.token
  | .pattern b _ => b.closer

/-- Whether parameters are recognized after the name of a method. -/
def MethodName.leads (inClass : Bool) : MethodName → Bool
  | .key k => !inClass || k.token.kind == .plainName && isSimpleName k.token.text
  | .computed .. => false

/-- The names that a pattern binds. -/
def Pattern.names : Pattern → List Binder
  | .last _ => []
  | .name _ n rest => n :: rest.names
  | .nested _ _ inside rest => inside.names ++ rest.names

mutual

/-- Whether the pass can recognize what some code binds: no generator has a name, the parameter of a
catch clause or of a method without a plain name binds nothing, a heritage has no braces, a
declarator list goes on to its last target, and the brace of each object literal is one that the
pass has taken for it. -/
def Code.isClear (taken : Token → Bool) (previous : Option Token) : Code → Bool
  | .nil => true
  | .token t rest =>
    (t.token.kind != .declaration || isMember previous || t.token.text == "with") &&
      rest.isClear taken (some t.token)
  | .template quote _ pieces rest =>
    pieces.isClear taken && rest.isClear taken (lastOf (some quote.token) pieces.marks.tokens)
  | .group b inside rest =>
    inside.isClear taken (some b.opener) && rest.isClear taken (some b.closer)
  | .object b entries rest =>
    taken b.opener && entries.isClear taken (some b.opener) && rest.isClear taken (some b.closer)
  | .function _ star name b parameters rest =>
    !isMember previous && (star.isNone || name.isNone) &&
      parameters.isClear taken (some b.opener) && rest.isClear taken (some b.closer)
  | .arrow b parameters rest =>
    parameters.isClear taken (some b.opener) && textIs "=>" rest.marks.tokens.head? &&
      rest.isClear taken (some b.closer)
  | .arrowOf parameter rest =>
    textIs "=>" rest.marks.tokens.head? && rest.isClear taken (some parameter.token)
  | .classOf word name heritage b members rest =>
    !isMember previous && !textIn [":", "("] heritage.marks.tokens.head? &&
      heritage.marks.tokens.all (·.text != "\x7b") &&
      heritage.isClear taken (lastOf (some word.token) (name.toList.map (·.token))) &&
      members.isClear taken (some b.opener) && rest.isClear taken (some b.closer)
  | .catchOf _ _ b parameter rest =>
    parameter.names.isEmpty && parameter.isClear taken (some b.opener) &&
      rest.isClear taken (some b.closer)
  | .declaration _ target more =>
    !isMember previous && target.isClear taken && more.isClear taken (some target.final)

def Template.isClear (taken : Token → Bool) : Template → Bool
  | .nil => true
  | .piece _ rest => rest.isClear taken
  | .substitution b inside rest => inside.isClear taken (some b.opener) && rest.isClear taken

def Pattern.isClear (taken : Token → Bool) (previous : Option Token) : Pattern → Bool
  | .last c => c.isClear taken previous
  | .name before n rest =>
    before.isClear taken previous && !textIs "(" rest.marks.tokens.head? &&
      rest.isClear taken (some n.token)
  | .nested before b inside rest =>
    before.isClear taken previous && inside.isClear taken (some b.opener) &&
      rest.isClear taken (some b.closer)

def Target.isClear (taken : Token → Bool) : Target → Bool
  | .name _ => true
  | .pattern b inside => inside.isClear taken (some b.opener)

def Declarators.isClear (taken : Token → Bool) (previous : Option Token) : Declarators → Bool
  | .last rest => rest.isClear taken previous
  | .more value comma target rest =>
    value.isClear taken previous && value.goesOn previous &&
      !endsDeclaration (lastOf previous value.marks.tokens) comma.token && target.isClear taken &&
      rest.isClear taken (some target.final)

def Entries.isClear (taken : Token → Bool) (previous : Option Token) : Entries → Bool
  | .last e => e.isClear taken previous
  | .more e comma rest => e.isClear taken previous && rest.isClear taken (some comma.token)

def Entry.isClear (taken : Token → Bool) (previous : Option Token) : Entry → Bool
  | .keyed _ colon value => value.isClear taken (some colon.token)
  | .method m => m.isClear taken false
  | .other c => c.isClear taken previous

def Method.isClear (taken : Token → Bool) (inClass : Bool) : Method → Bool
  | .mk _ name b parameters braces body =>
    (name.leads inClass || parameters.names.isEmpty) && name.isClear taken inClass &&
      parameters.isClear taken (some b.opener) && body.isClear taken (some braces.opener)

def MethodName.isClear (taken : Token → Bool) (inClass : Bool) : MethodName → Bool
  | .key k => !inClass || k.token.kind != .declaration
  | .computed b inside => inside.isClear taken (some b.opener)

def Members.isClear (taken : Token → Bool) (previous : Option Token) : Members → Bool
  | .last c => c.isClear taken previous
  | .method m rest => m.isClear taken true && rest.isClear taken (some m.closer)
  | .field c semicolon rest => c.isClear taken previous && rest.isClear taken (some semicolon.token)

end

end Folio.Script
