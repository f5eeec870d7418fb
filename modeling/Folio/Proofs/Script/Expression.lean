import Folio.Proofs.Script.Nesting
import Mathlib.Data.List.Basic

/-!
# Expressions

Syntax trees that keep their tokens. `Expression.references` lists what an expression refers to;
`Expression.occurrences` lists its names and property keys with the place where the pass meets each,
and so tells what the pass makes of it.
-/

namespace Folio.Script

/-! ## Tokens -/

/-- A token that its text alone scans to. -/
def Token.Lexical (t : Token) : Prop :=
  scan t.text.toList = .ok [⟨t.kind, t.text, 0, false⟩]

instance (t : Token) : Decidable t.Lexical :=
  inferInstanceAs (Decidable (_ = _))

theorem Token.Lexical.text_ne {t : Token} (lexical : t.Lexical) (kind : Kind) {text : String}
    (scanned : scan text.toList = .ok [⟨kind, text, 0, false⟩]) (other : t.kind ≠ kind) :
    t.text ≠ text := by
  rintro rfl
  rw [Token.Lexical, scanned] at lexical
  injection lexical with same
  injection same with same
  injection same with same
  exact other same.symm

theorem Token.Lexical.not_bracket {t : Token} (lexical : t.Lexical) (other : t.kind ≠ .punctuation) :
    t.opens = false ∧ t.closes = false := by
  have ne (text : String) (scanned : scan text.toList = .ok [⟨.punctuation, text, 0, false⟩]) :
      t.text ≠ text := lexical.text_ne .punctuation scanned other
  have round := ne "(" (by decide +kernel)
  have square := ne "[" (by decide +kernel)
  have curly := ne "\x7b" (by decide +kernel)
  have round' := ne ")" (by decide +kernel)
  have square' := ne "]" (by decide +kernel)
  have curly' := ne "\x7d" (by decide +kernel)
  simp [Token.opens, Token.closes, Token.closerOf, Token.isCloserText, round, square, curly, round',
    square', curly']

structure Mark (text : String) where
  token : Token
  punctuation : token.kind = .punctuation
  same : token.text = text

structure Sign (text : String) where
  token : Token
  operator : token.kind = .operator
  same : token.text = text

structure Operator where
  token : Token
  operator : token.kind = .operator
  lexical : token.Lexical
  binary : token.text ≠ "?" ∧ token.text ≠ ":"

structure Name where
  token : Token
  plain : token.kind = .plainName
  lexical : token.Lexical

/-- A number, a quoted literal, or a template literal without a substitution. -/
inductive Literal
  | constant (t : Token) (kind : t.kind ∈ [Kind.number, .doubleQuoted, .singleQuoted])
      (lexical : t.Lexical)
  | template (quote : Token) (more : List Token) (opening : quote.text = "`")
      (texts : ∀ t ∈ quote :: more, t.kind = .templateText)

/-- A name of any kind, a reserved word, a number or a quoted literal before a colon. -/
structure Key where
  token : Token
  kind : token.kind ∈ [Kind.plainName, .otherName, .keyword, .declaration, .number, .doubleQuoted,
    .singleQuoted] ∨ token.kind = .operator ∧ token.text ∈ operatorWords
  lexical : token.Lexical

/-- A plain name at an offset. -/
def Name.ofText (text : String) (start : Nat)
    (lexical : Token.Lexical ⟨.plainName, text, start, false⟩) : Name :=
  ⟨⟨.plainName, text, start, false⟩, rfl, lexical⟩

def Mark.ofOffset (text : String) (start : Nat) : Mark text :=
  ⟨⟨.punctuation, text, start, false⟩, rfl, rfl⟩

def Sign.ofOffset (text : String) (start : Nat) : Sign text :=
  ⟨⟨.operator, text, start, false⟩, rfl, rfl⟩

/-- A plain name as a key. -/
def Name.key (n : Name) : Key :=
  ⟨n.token, Or.inl (by simp [n.plain]), n.lexical⟩

def Name.reference (n : Name) (shorthand : Bool) : Reference :=
  ⟨n.token.text, n.token.start, shorthand⟩

def Literal.tokens : Literal → List Token
  | constant t _ _ => [t]
  | template quote more _ _ => quote :: more

/-! ## Trees -/

mutual

inductive Expression
  | name (n : Name)
  | literal (l : Literal)
  | member (object : Expression) (dot : Mark ".") (n : Name)
  | call (callee : Expression) (opener : Mark "(") (arguments : Elements) (closer : Mark ")")
  | array (opener : Mark "[") (elements : Elements) (closer : Mark "]")
  | group (opener : Mark "(") (inner : Expression) (closer : Mark ")")
  | binary (left : Expression) (operator : Operator) (right : Expression)
  | conditional (test : Expression) (question : Sign "?") (yes : Expression) (colon : Sign ":")
      (no : Expression)
  | object (opener : Mark "\x7b") (properties : Properties) (closer : Mark "\x7d")

/-- Expressions between commas; one more comma may follow the last. -/
inductive Elements
  | nil
  | last (e : Expression)
  | more (e : Expression) (comma : Mark ",") (rest : Elements)

inductive Property
  | keyed (key : Key) (colon : Sign ":") (value : Expression)
  | shorthand (n : Name)
  | spread (dots : Mark "...") (e : Expression)

inductive Properties
  | nil
  | last (p : Property)
  | more (p : Property) (comma : Mark ",") (rest : Properties)

end

mutual

def Expression.tokens : Expression → List Token
  | .name n => [n.token]
  | .literal l => l.tokens
  | .member e dot n => e.tokens ++ [dot.token, n.token]
  | .call callee opener arguments closer =>
    callee.tokens ++ opener.token :: arguments.tokens ++ [closer.token]
  | .array opener elements closer => opener.token :: elements.tokens ++ [closer.token]
  | .group opener inner closer => opener.token :: inner.tokens ++ [closer.token]
  | .binary left operator right => left.tokens ++ operator.token :: right.tokens
  | .conditional test question yes colon no =>
    test.tokens ++ question.token :: yes.tokens ++ colon.token :: no.tokens
  | .object opener properties closer => opener.token :: properties.tokens ++ [closer.token]

def Elements.tokens : Elements → List Token
  | .nil => []
  | .last e => e.tokens
  | .more e comma rest => e.tokens ++ comma.token :: rest.tokens

def Property.tokens : Property → List Token
  | .keyed key colon value => key.token :: colon.token :: value.tokens
  | .shorthand n => [n.token]
  | .spread dots e => dots.token :: e.tokens

def Properties.tokens : Properties → List Token
  | .nil => []
  | .last p => p.tokens
  | .more p comma rest => p.tokens ++ comma.token :: rest.tokens

end

/-! ## References -/

mutual

/-- The names that stand for a value, in source order: no property key and no member name. -/
def Expression.references : Expression → List Reference
  | .name n => [n.reference false]
  | .literal _ => []
  | .member e _ _ => e.references
  | .call callee _ arguments _ => callee.references ++ arguments.references
  | .array _ elements _ => elements.references
  | .group _ inner _ => inner.references
  | .binary left _ right => left.references ++ right.references
  | .conditional test _ yes _ no => test.references ++ yes.references ++ no.references
  | .object _ properties _ => properties.references

def Elements.references : Elements → List Reference
  | .nil => []
  | .last e => e.references
  | .more e _ rest => e.references ++ rest.references

def Property.references : Property → List Reference
  | .keyed _ _ value => value.references
  | .shorthand n => [n.reference true]
  | .spread _ e => e.references

def Properties.references : Properties → List Reference
  | .nil => []
  | .last p => p.references
  | .more p _ rest => p.references ++ rest.references

end

/-! ## Places -/

/-- Where an expression stands: directly among parameters or in a binding pattern, directly in
other brackets, or directly in a block with some conditional operators that wait for their colon. -/
inductive Place
  | hidden
  | inner
  | bare (pending : Nat)
  deriving DecidableEq

/-- What an expression follows: a colon, or a spread taken for the name of a method. -/
inductive Start
  | fresh
  | colon
  | method
  deriving DecidableEq

/-- What the braces of an object literal are taken for. -/
inductive Braces
  | object
  | block
  | pattern
  deriving DecidableEq

/-- How the braces of an object literal are read. -/
def Place.braces : Place → Start → Braces
  | hidden, _ => .pattern
  | inner, _ => .object
  | bare 0, .colon => .block
  | bare _, _ => .object

/-- The place between braces. -/
def Braces.place : Braces → Place
  | object => .inner
  | block => .bare 0
  | pattern => .hidden

/-- The place between square brackets. -/
def Place.elements : Place → Place
  | hidden => .hidden
  | _ => .inner

/-- The place between the two marks of a conditional. -/
def Place.asking : Place → Place
  | bare pending => .bare (pending + 1)
  | p => p

/-- The place in parentheses around an expression. -/
def Start.group : Start → Place
  | method => .hidden
  | _ => .inner

/-- Whether a parenthesis comes first. -/
def Expression.startsGroup : Expression → Bool
  | .name .. | .literal .. | .array .. | .object .. => false
  | .group .. => true
  | .member e _ _ => e.startsGroup
  | .call callee _ _ _ => callee.startsGroup
  | .binary left _ _ => left.startsGroup
  | .conditional test _ _ _ _ => test.startsGroup

/-- How a spread expression starts: a spread parenthesis is taken for the name of a method. -/
def Expression.spreadStart (e : Expression) (braces : Braces) : Start :=
  if braces = .object ∧ e.startsGroup then .method else .fresh

/-! ## Occurrences -/

/-- A name or a property key where the pass meets it. -/
inductive Occurrence
  | name (place : Place) (n : Name)
  | shorthand (braces : Braces) (n : Name)
  | key (braces : Braces) (k : Key)

mutual

def Expression.occurrences (place : Place) (start : Start) : Expression → List Occurrence
  | .name n => [.name place n]
  | .literal _ => []
  | .member e _ _ => e.occurrences place start
  | .call callee _ arguments _ =>
    callee.occurrences place start ++ arguments.occurrences .inner
  | .array _ elements _ => elements.occurrences place.elements
  | .group _ inner _ => inner.occurrences start.group .fresh
  | .binary left _ right => left.occurrences place start ++ right.occurrences place .fresh
  | .conditional test _ yes _ no =>
    test.occurrences place start ++ yes.occurrences place.asking .fresh
      ++ no.occurrences place .colon
  | .object _ properties _ => properties.occurrences (place.braces start)

def Elements.occurrences (place : Place) : Elements → List Occurrence
  | .nil => []
  | .last e => e.occurrences place .fresh
  | .more e _ rest => e.occurrences place .fresh ++ rest.occurrences place

def Property.occurrences (braces : Braces) : Property → List Occurrence
  | .keyed key _ value => .key braces key :: value.occurrences braces.place .colon
  | .shorthand n => [.shorthand braces n]
  | .spread _ e => e.occurrences braces.place (e.spreadStart braces)

def Properties.occurrences (braces : Braces) : Properties → List Occurrence
  | .nil => []
  | .last p => p.occurrences braces
  | .more p _ rest => p.occurrences braces ++ rest.occurrences braces

end

namespace Occurrence

def token : Occurrence → Token
  | name _ n | shorthand _ n => n.token
  | key _ k => k.token

/-- The reference that an occurrence is. -/
def expected : Occurrence → Option Reference
  | name _ n => some (n.reference false)
  | shorthand _ n => some (n.reference true)
  | key _ _ => none

/-- A name as the pass reports it at a place. -/
def reportedAt (place : Place) (t : Token) : Option Reference :=
  if t.kind = .plainName ∧ isSimpleName t.text ∧ place ≠ .hidden then some ⟨t.text, t.start, false⟩
  else none

/-- The reference that the pass reports at an occurrence. -/
def reported : Occurrence → Option Reference
  | name place n => reportedAt place n.token
  | shorthand .object n => if isSimpleName n.token.text then some (n.reference true) else none
  | shorthand braces n => reportedAt braces.place n.token
  | key .object _ => none
  | key braces k => reportedAt braces.place k.token

/-- Whether a declaring word is read where no key is expected. -/
def declares : Occurrence → Bool
  | key .object _ | name .. | shorthand .. => false
  | key _ k => k.token.kind == .declaration

end Occurrence

/-! ## Brackets -/

theorem Mark.not_bracket {text : String} (m : Mark text) (opens : Token.closerOf text = none)
    (closes : Token.isCloserText text = false) : m.token.opens = false ∧ m.token.closes = false := by
  simp [Token.opens, Token.closes, m.same, opens, closes]

theorem Sign.not_bracket {text : String} (m : Sign text) (opens : Token.closerOf text = none)
    (closes : Token.isCloserText text = false) : m.token.opens = false ∧ m.token.closes = false := by
  simp [Token.opens, Token.closes, m.same, opens, closes]

theorem Name.not_bracket (n : Name) : n.token.opens = false ∧ n.token.closes = false :=
  n.lexical.not_bracket (by simp [n.plain])

theorem Key.not_punctuation (k : Key) : k.token.kind ≠ .punctuation := by
  rcases k.kind with kind | ⟨kind, -⟩
  · intro punctuation
    rw [punctuation] at kind
    revert kind
    decide
  · simp [kind]

theorem Key.not_substitution (k : Key) : k.token.kind ≠ .substitution := by
  rcases k.kind with kind | ⟨kind, -⟩
  · intro substitution
    rw [substitution] at kind
    revert kind
    decide
  · simp [kind]

theorem Literal.kind_of_mem {l : Literal} {t : Token} (member : t ∈ l.tokens) :
    t.kind ∈ [Kind.number, .doubleQuoted, .singleQuoted, .templateText] := by
  cases l with
  | constant t' kind lexical =>
    rw [List.mem_singleton.1 member]
    exact List.mem_append_left [Kind.templateText] kind
  | template quote more opening texts => simp [texts t member]

theorem Literal.not_bracket {l : Literal} {t : Token} (member : t ∈ l.tokens) :
    t.opens = false ∧ t.closes = false := by
  cases l with
  | constant t' kind lexical =>
    cases List.mem_singleton.1 member
    refine lexical.not_bracket fun punctuation => ?_
    rw [punctuation] at kind
    revert kind
    decide
  | template quote more opening texts =>
    simp [Token.opens, Token.closes, texts t member, Kind.isString]

/-- Tokens whose brackets match and that are no marks of a template substitution. -/
def Closed (commas : Bool) (tokens : List Token) : Prop :=
  Nested commas tokens ∧ ∀ t ∈ tokens, t.kind ≠ .substitution

namespace Closed

variable {commas : Bool} {tokens tokens' : List Token}

theorem nil : Closed commas [] :=
  ⟨.nil, fun t member => (by cases member)⟩

theorem cons {t : Token} (bracket : t.opens = false ∧ t.closes = false)
    (comma : commas = true ∨ t.isPunctuation "," = false) (code : t.kind ≠ .substitution)
    (closed : Closed commas tokens) : Closed commas (t :: tokens) := by
  refine ⟨.plain t bracket.1 bracket.2 comma closed.1, fun t' member => ?_⟩
  rcases List.mem_cons.1 member with rfl | member
  · exact code
  · exact closed.2 t' member

theorem append (closed : Closed commas tokens) (closed' : Closed commas tokens') :
    Closed commas (tokens ++ tokens') := by
  refine ⟨closed.1.append closed'.1, fun t member => ?_⟩
  rcases List.mem_append.1 member with member | member
  · exact closed.2 t member
  · exact closed'.2 t member

theorem brackets {text text' : String} (opener : Mark text) (closer : Mark text')
    (matching : Token.closerOf text = some text') (within : Closed true tokens) :
    Closed commas (opener.token :: tokens ++ [closer.token]) := by
  refine ⟨.brackets opener.token closer.token opener.punctuation closer.punctuation
    (by rw [opener.same, closer.same, matching]) within.1 .nil, fun t member => ?_⟩
  simp only [List.cons_append, List.mem_cons, List.mem_append, List.not_mem_nil, or_false] at member
  rcases member with rfl | member | rfl
  · simp [opener.punctuation]
  · exact within.2 t member
  · simp [closer.punctuation]

theorem withCommas (closed : Closed commas tokens) : Closed true tokens :=
  ⟨closed.1.withCommas, closed.2⟩

theorem mark {text : String} (m : Mark text) (opens : Token.closerOf text = none)
    (closes : Token.isCloserText text = false) (comma : commas = true ∨ text ≠ ",")
    (closed : Closed commas tokens) : Closed commas (m.token :: tokens) :=
  cons (m.not_bracket opens closes) (comma.imp_right fun ne => by
    simp [Token.isPunctuation, m.same, ne]) (by simp [m.punctuation]) closed

theorem sign {text : String} (m : Sign text) (opens : Token.closerOf text = none)
    (closes : Token.isCloserText text = false) (closed : Closed commas tokens) :
    Closed commas (m.token :: tokens) :=
  cons (m.not_bracket opens closes) (Or.inr (by simp [Token.isPunctuation, m.operator]))
    (by simp [m.operator]) closed

theorem operator (o : Operator) (closed : Closed commas tokens) :
    Closed commas (o.token :: tokens) :=
  cons (o.lexical.not_bracket (by simp [o.operator]))
    (Or.inr (by simp [Token.isPunctuation, o.operator])) (by simp [o.operator]) closed

theorem name (n : Name) (closed : Closed commas tokens) : Closed commas (n.token :: tokens) :=
  cons n.not_bracket (Or.inr (by simp [Token.isPunctuation, n.plain])) (by simp [n.plain]) closed

theorem key (k : Key) (closed : Closed commas tokens) : Closed commas (k.token :: tokens) :=
  cons (k.lexical.not_bracket k.not_punctuation)
    (Or.inr (by simp [Token.isPunctuation, k.not_punctuation])) k.not_substitution closed

theorem literal (l : Literal) : Closed commas l.tokens := by
  have leaf : ∀ t ∈ l.tokens, (t.opens = false ∧ t.closes = false) ∧
      t.kind ∈ [Kind.number, .doubleQuoted, .singleQuoted, .templateText] :=
    fun t member => ⟨Literal.not_bracket member, Literal.kind_of_mem member⟩
  generalize l.tokens = tokens at leaf
  induction tokens with
  | nil => exact nil
  | cons t tokens ih =>
    obtain ⟨bracket, kind⟩ := leaf t (by simp)
    have other (k : Kind) (no : k ∉ [Kind.number, .doubleQuoted, .singleQuoted, .templateText]) :
        t.kind ≠ k := fun same => no (same ▸ kind)
    exact cons bracket (Or.inr (by simp [Token.isPunctuation, other .punctuation (by decide)]))
      (other _ (by decide)) (ih fun t' member => leaf t' (List.mem_cons_of_mem t member))

end Closed

mutual

theorem Expression.closed : ∀ e : Expression, Closed false e.tokens
  | .name n => .name n .nil
  | .literal l => .literal l
  | .member e dot n => e.closed.append (.mark dot rfl rfl (Or.inr (by decide)) (.name n .nil))
  | .call callee opener arguments closer => by
    rw [Expression.tokens, List.append_assoc]
    exact callee.closed.append (.brackets opener closer rfl arguments.closed)
  | .array opener elements closer => .brackets opener closer rfl elements.closed
  | .group opener inner closer => .brackets opener closer rfl inner.closed.withCommas
  | .binary left operator right => left.closed.append (.operator operator right.closed)
  | .conditional test question yes colon no => by
    rw [Expression.tokens, List.append_assoc]
    exact test.closed.append (.sign question rfl rfl (yes.closed.append (.sign colon rfl rfl no.closed)))
  | .object opener properties closer => .brackets opener closer rfl properties.closed

theorem Elements.closed : ∀ es : Elements, Closed true es.tokens
  | .nil => .nil
  | .last e => e.closed.withCommas
  | .more e comma rest => e.closed.withCommas.append (.mark comma rfl rfl (Or.inl rfl) rest.closed)

theorem Property.closed : ∀ p : Property, Closed true p.tokens
  | .keyed key colon value => .key key (.sign colon rfl rfl value.closed.withCommas)
  | .shorthand n => .name n .nil
  | .spread dots e => .mark dots rfl rfl (Or.inl rfl) e.closed.withCommas

theorem Properties.closed : ∀ ps : Properties, Closed true ps.tokens
  | .nil => .nil
  | .last p => p.closed
  | .more p comma rest => p.closed.append (.mark comma rfl rfl (Or.inl rfl) rest.closed)

end

/-! ## First tokens -/

theorem Literal.tokens_eq (l : Literal) :
    ∃ t more, l.tokens = t :: more ∧ t.text ≠ "." ∧ t.text ≠ ":" ∧ t.text ≠ "(" := by
  cases l with
  | constant t kind lexical =>
    have other (k : Kind) (no : k ∉ [Kind.number, .doubleQuoted, .singleQuoted]) : t.kind ≠ k :=
      fun same => no (same ▸ kind)
    exact ⟨t, [], rfl, lexical.text_ne .punctuation (by decide +kernel) (other _ (by decide)),
      lexical.text_ne .operator (by decide +kernel) (other _ (by decide)),
      lexical.text_ne .punctuation (by decide +kernel) (other _ (by decide))⟩
  | template quote more opening texts => exact ⟨quote, more, rfl, by simp [opening]⟩

theorem Expression.tokens_eq (e : Expression) :
    ∃ t more, e.tokens = t :: more ∧ t.text ≠ "." ∧ t.text ≠ ":" ∧
      (t.text = "(" ↔ e.startsGroup = true) := by
  match e with
  | .name n =>
    have group : n.token.text ≠ "(" :=
      n.lexical.text_ne .punctuation (by decide +kernel) (by simp [n.plain])
    exact ⟨n.token, [], rfl, n.lexical.text_ne .punctuation (by decide +kernel) (by simp [n.plain]),
      n.lexical.text_ne .operator (by decide +kernel) (by simp [n.plain]),
      by simp [group, startsGroup]⟩
  | .literal l =>
    obtain ⟨t, more, same, dot, colon, group⟩ := l.tokens_eq
    exact ⟨t, more, same, dot, colon, by simp [group, startsGroup]⟩
  | .member e dot n =>
    obtain ⟨t, more, same, ne⟩ := e.tokens_eq
    exact ⟨t, more ++ [dot.token, n.token], by simp [tokens, same], ne⟩
  | .call callee opener arguments closer =>
    obtain ⟨t, more, same, ne⟩ := callee.tokens_eq
    exact ⟨t, more ++ opener.token :: arguments.tokens ++ [closer.token], by simp [tokens, same], ne⟩
  | .array opener elements closer =>
    exact ⟨opener.token, _, rfl, by simp [opener.same], by simp [opener.same],
      by simp [opener.same, startsGroup]⟩
  | .group opener inner closer =>
    exact ⟨opener.token, _, rfl, by simp [opener.same], by simp [opener.same],
      by simp [opener.same, startsGroup]⟩
  | .binary left operator right =>
    obtain ⟨t, more, same, ne⟩ := left.tokens_eq
    exact ⟨t, more ++ operator.token :: right.tokens, by simp [tokens, same], ne⟩
  | .conditional test question yes colon no =>
    obtain ⟨t, more, same, ne⟩ := test.tokens_eq
    exact ⟨t, more ++ question.token :: yes.tokens ++ colon.token :: no.tokens,
      by simp [tokens, same], ne⟩
  | .object opener properties closer =>
    exact ⟨opener.token, _, rfl, by simp [opener.same], by simp [opener.same],
      by simp [opener.same, startsGroup]⟩

/-! ## Arguments -/

theorem splitArguments_group (source : List Char) (group : List Token) (some : group ≠ []) :
    ∃ a, splitArguments source 0 group.reverse [] = .ok [a] := by
  cases group with
  | nil => exact absurd rfl some
  | cons first more => exact ⟨Argument.ofTokens source first more, by simp [splitArguments]⟩

theorem splitArguments_comma (source : List Char) (group : List Token) (some : group ≠ [])
    (comma : Mark ",") (rest : List Token) :
    ∃ a, splitArguments source 0 group.reverse (comma.token :: rest) =
      (splitArguments source 0 [] rest).map (a :: ·) := by
  obtain ⟨opens, closes⟩ := comma.not_bracket rfl rfl
  cases group with
  | nil => exact absurd rfl some
  | cons first more =>
    refine ⟨Argument.ofTokens source first more, ?_⟩
    rw [splitArguments, opens, closes, if_neg Bool.false_ne_true, if_neg Bool.false_ne_true,
      if_pos ⟨rfl, by simp [Token.isPunctuation, comma.punctuation, comma.same]⟩]
    simp

theorem Elements.splitArguments_eq (source : List Char) : ∀ es : Elements,
    ∃ arguments, splitArguments source 0 [] es.tokens = .ok arguments
  | .nil => ⟨[], rfl⟩
  | .last e => by
    obtain ⟨t, more, same, -⟩ := e.tokens_eq
    obtain ⟨a, split⟩ := splitArguments_group source e.tokens (by simp [same])
    have nested := e.closed.1.splitArguments_append source 0 nofun [] []
    rw [List.append_nil, List.append_nil] at nested
    exact ⟨[a], nested.trans split⟩
  | .more e comma rest => by
    obtain ⟨t, more, same, -⟩ := e.tokens_eq
    obtain ⟨arguments, later⟩ := rest.splitArguments_eq source
    obtain ⟨a, split⟩ :=
      splitArguments_comma source e.tokens (by simp [same]) comma rest.tokens
    have nested := e.closed.1.splitArguments_append source 0 nofun []
      (comma.token :: rest.tokens)
    rw [List.append_nil] at nested
    exact ⟨a :: arguments, by rw [Elements.tokens, nested, split, later]; rfl⟩

/-- A call takes a list of arguments whole. -/
theorem Elements.callAt_eq (source : List Char) (callee : Token) (opener : Mark "(") (es : Elements)
    (closer : Mark ")") (rest : List Token) :
    ∃ call, callAt source callee (opener.token :: es.tokens ++ closer.token :: rest) =
      .ok (call, es.tokens.length + 2) := by
  obtain ⟨arguments, split⟩ := es.splitArguments_eq source
  obtain ⟨opens, closes, -⟩ := @closes_of_matching opener.token _ closer.punctuation
    (by rw [opener.same, closer.same]; rfl)
  have closed := es.closed.1.takeClosed_eq opens closes rest
  exact ⟨⟨⟨callee.text, callee.start, false⟩, closer.token.stop, arguments⟩,
    by simp only [callAt, List.cons_append, closed, split]⟩

end Folio.Script
