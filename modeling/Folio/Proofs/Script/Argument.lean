import Folio.Proofs.Script.Balanced

/-!
# Arguments of calls

A call whose argument list is made of whole expressions with commas between them (`Listed`) ends at
its own bracket, and its arguments are these expressions as long as no comma stands directly in a
substitution and none of them is a row of template literals (`parse_arguments`).
-/

namespace Folio.Script

open Text

/-! ## Lists of expressions -/

/-- Tokens in which brackets and the marks of substitutions match. `commas` tells whether commas may
stand outside of both. -/
inductive Whole : Bool → List Token → Prop
  | nil {commas : Bool} : Whole commas []
  | plain {commas : Bool} {tokens : List Token} (t : Token) (opens : t.awaits = none)
      (closes : t.ends = false) (comma : commas = true ∨ t.isPunctuation "," = false)
      (later : Whole commas tokens) : Whole commas (t :: tokens)
  | around {commas : Bool} {inside tokens : List Token} (opener close : Token)
      (closes : close.ends = true) (matching : opener.awaits = some close.text)
      (kinds : close.kind = opener.kind) (within : Whole true inside)
      (later : Whole commas tokens) : Whole commas (opener :: inside ++ close :: tokens)

/-- Expressions with commas between them and perhaps one behind the last. -/
inductive Listed : List (List Token) → List Token → Prop
  | nil : Listed [] []
  | last {group : List Token} (some : group ≠ []) (whole : Whole false group) :
      Listed [group] group
  | cons {group tokens : List Token} {groups : List (List Token)} (comma : Token)
      (isComma : comma.isPunctuation "," = true) (some : group ≠ []) (whole : Whole false group)
      (later : Listed groups tokens) : Listed (group :: groups) (group ++ comma :: tokens)

theorem Token.isPunctuation_iff {t : Token} {text : String} :
    t.isPunctuation text = true ↔ t.kind = .punctuation ∧ t.text = text := by
  simp [Token.isPunctuation]

section Lists

variable {commas : Bool} {tokens : List Token} {groups : List (List Token)}

theorem Whole.of_forall (plain : ∀ t ∈ tokens, t.awaits = none ∧ t.ends = false ∧
    (commas = true ∨ t.isPunctuation "," = false)) : Whole commas tokens := by
  induction tokens with
  | nil => exact .nil
  | cons t tokens ih =>
    obtain ⟨⟨opens, closes, comma⟩, later⟩ := List.forall_mem_cons.1 plain
    exact .plain t opens closes comma (ih later)

theorem Whole.balanced (whole : Whole commas tokens) : Balanced true tokens := by
  induction whole with
  | nil => exact .nil
  | plain t opens closes comma later ih => exact .plain t opens closes ih
  | around opener close closes matching kinds within later ihWithin ih =>
    exact .around opener close closes matching (fun _ => kinds) ihWithin ih

theorem Token.plain_of_isComma {t : Token} (isComma : t.isPunctuation "," = true) :
    t.awaits = none ∧ t.ends = false := by
  obtain ⟨kind, text⟩ := Token.isPunctuation_iff.1 isComma
  simp [Token.awaits, Token.ends, Token.closerOf, Token.isCloserText, kind, text]

theorem Listed.balanced (listed : Listed groups tokens) : Balanced true tokens := by
  induction listed with
  | nil => exact .nil
  | last some whole => exact whole.balanced
  | cons comma isComma some whole later ih =>
    obtain ⟨opens, closes⟩ := Token.plain_of_isComma isComma
    exact whole.balanced.append (.plain comma opens closes ih)

/-- A whole expression has all its commas in brackets, or there is a first one that is not: it stands
directly in a substitution. -/
theorem Whole.nested_or_comma (whole : Whole commas tokens) (proper : ∀ t ∈ tokens, t.IsProper) :
    Nested false tokens ∨ ∃ before comma after, tokens = before ++ comma :: after ∧
      comma.isPunctuation "," = true ∧ Nested false before := by
  induction whole with
  | nil => exact Or.inl .nil
  | @plain commas tokens t opens closes comma later ih =>
    obtain ⟨own, proper⟩ := List.forall_mem_cons.1 proper
    obtain ⟨notOpens, notCloses⟩ := own.plain opens closes
    by_cases isComma : t.isPunctuation "," = true
    · exact Or.inr ⟨[], t, tokens, rfl, isComma, .nil⟩
    have other : false = true ∨ t.isPunctuation "," = false := Or.inr (Bool.eq_false_iff.2 isComma)
    rcases ih proper with nested | ⟨before, comma, after, rfl, isComma, nested⟩
    · exact Or.inl (.plain t notOpens notCloses other nested)
    · exact Or.inr ⟨t :: before, comma, after, rfl, isComma, .plain t notOpens notCloses other nested⟩
  | @around commas inside tokens opener close closes matching kinds within later ihWithin ih =>
    have properInside : ∀ t ∈ inside, t.IsProper := fun t member => proper t (by simp [member])
    have properLater : ∀ t ∈ tokens, t.IsProper := fun t member => proper t (by simp [member])
    suffices found : (∀ {after}, Nested false after → Nested false (opener :: inside ++ close :: after)) ∨
        ∃ before comma after, inside = before ++ comma :: after ∧
          comma.isPunctuation "," = true ∧ Nested false (opener :: before) by
      rcases found with past | ⟨before, comma, after, rfl, isComma, nested⟩
      · rcases ih properLater with nested | ⟨before, comma, after, rfl, isComma, nested⟩
        · exact Or.inl (past nested)
        · exact Or.inr ⟨opener :: inside ++ close :: before, comma, after, by simp, isComma,
            past nested⟩
      · exact Or.inr ⟨opener :: before, comma, after ++ close :: tokens, by simp, isComma, nested⟩
    rcases Token.awaits_cases matching kinds with ⟨mark, mark'⟩ | ⟨opening, closing, partner⟩
    · -- The marks of a substitution do not hide the commas between them.
      obtain ⟨opens, opens', other⟩ := Token.not_bracket_of_mark mark
      obtain ⟨shuts, shuts', other'⟩ := Token.not_bracket_of_mark mark'
      rcases ihWithin properInside with nested | ⟨before, comma, after, rfl, isComma, nested⟩
      · exact Or.inl fun later => .plain opener opens opens' (Or.inr other)
          (nested.append (.plain close shuts shuts' (Or.inr other') later))
      · exact Or.inr ⟨before, comma, after, rfl, isComma,
          .plain opener opens opens' (Or.inr other) nested⟩
    · exact Or.inl fun later => .brackets opener close opening closing partner
        (within.balanced.nested properInside) later

end Lists

/-! ## Template literals -/

/-- A back quote outside text, which opens or closes a template literal. -/
def Token.IsBackQuote (t : Token) : Prop :=
  t.kind = .templateText ∧ t.text = "`"

/-- One quoted string. -/
def IsString (tokens : List Token) : Prop :=
  ∃ t, tokens = [t] ∧ (t.kind = .doubleQuoted ∨ t.kind = .singleQuoted)

/-- One template literal without substitutions. -/
def IsTemplate (tokens : List Token) : Prop :=
  ∃ opener text closer, tokens = opener :: text ++ [closer] ∧ opener.IsBackQuote ∧
    closer.IsBackQuote ∧ ∀ t ∈ text, t.kind = .templateText ∧ t.text ≠ "`"

/-- Template text alone: a template literal without substitutions, or a row of them. -/
def AllTemplateText (tokens : List Token) : Prop :=
  ∀ t ∈ tokens, t.kind = .templateText

theorem IsTemplate.allTemplateText {tokens : List Token} (template : IsTemplate tokens) :
    AllTemplateText tokens := by
  obtain ⟨opener, text, closer, rfl, opens, closes, inside⟩ := template
  intro t member
  simp only [List.cons_append, List.mem_cons, List.mem_append, List.not_mem_nil, or_false] at member
  rcases member with rfl | member | rfl
  · exact opens.1
  · exact (inside t member).1
  · exact closes.1

section Lexer

variable {mode : Mode} {previous : Option Char} {offset : Nat} {s : List Char} {t : Token}
  {tokens after : List Token}

theorem Shape.Takes.eq_nil {found : Shape} {u w : List Char} (takes : found.Takes u w)
    (more : found.more = 0) : u = [] := by
  apply List.eq_nil_of_length_eq_zero
  rcases takes with exact' | ⟨le, -⟩ <;> omega

theorem codeShape_templateText {c : Char} {r : List Char} {found : Shape}
    (shaped : codeShape mode previous c r = some found) (template : found.kind = .templateText) :
    c = '`' ∧ found.more = 0 ∧ ¬found.mode.InCode := by
  have letter := (codeShape_cases shaped).resolve_left fun mark => by
    rw [template] at mark
    exact absurd mark.1 (by decide)
  unfold letterShape at letter
  split at letter
  · next word =>
    cases letter
    exact absurd template (wordShape_eq_some word).2.1
  split at letter
  · cases letter
    cases template
  split at letter
  · cases letter
    cases template
  unfold literalShape at letter
  split_ifs at letter with double single quote hash
  · obtain ⟨n, -, rfl⟩ := Option.map_eq_some_iff.1 letter
    cases template
  · obtain ⟨n, -, rfl⟩ := Option.map_eq_some_iff.1 letter
    cases template
  · cases letter
    exact ⟨quote, rfl, by simp [Mode.InCode]⟩
  · split at letter
    · split at letter
      · cases letter
        cases template
      · cases letter
    · cases letter

/-- In code, template text is a back quote that opens a literal. -/
theorem shape_templateText_of_inCode {c : Char} {r : List Char} {found : Shape} (code : mode.InCode)
    (shaped : shape mode previous c r = some found) (template : found.kind = .templateText) :
    c = '`' ∧ found.more = 0 ∧ ¬found.mode.InCode := by
  rcases shape_of_inCode code shaped with ⟨rfl, -⟩ | shaped
  · cases template
  · exact codeShape_templateText shaped template

/-- Template text before code is a back quote that closes a literal. -/
theorem shape_templateText_before_code {c : Char} {r : List Char} {found : Shape}
    (shaped : shape mode previous c r = some found) (template : found.kind = .templateText)
    (code : found.mode.InCode) : c = '`' ∧ found.more = 0 := by
  by_cases inside : mode.InCode
  · exact absurd code (shape_templateText_of_inCode inside shaped template).2.2
  · obtain ⟨outer, nesting⟩ := exists_of_not_inCode inside
    unfold shape at shaped
    rw [nesting] at shaped
    unfold templateShape at shaped
    dsimp only at shaped
    have stays : ¬Mode.InCode ⟨.template :: outer, false⟩ := by simp [Mode.InCode]
    split_ifs at shaped with quote slash ends dollar brace <;> cases shaped
    · exact ⟨quote, rfl⟩
    · exact absurd code stays
    · cases template
    · exact absurd code stays
    · exact absurd code stays

theorem shape_kind_of_not_inCode {c : Char} {r : List Char} {found : Shape}
    (inside : ¬mode.InCode) (shaped : shape mode previous c r = some found) :
    found.kind = .templateText ∨ found.kind = .substitution := by
  obtain ⟨outer, nesting⟩ := exists_of_not_inCode inside
  unfold shape at shaped
  rw [nesting] at shaped
  exact (templateShape_kind shaped).imp (fun template => template.1) fun mark => mark.1

/-- Punctuation that comes next, perhaps behind trivia, stands in code. -/
theorem inCode_of_head? {broken : Bool} (scanned : scanFrom mode previous offset s = .ok tokens)
    (head : (significantFrom broken tokens).head? = some t) (punctuation : t.kind = .punctuation) :
    mode.InCode := by
  by_contra inside
  cases tokens with
  | nil => cases head
  | cons first tokens =>
    obtain ⟨c, u, w, found, -, shaped, -, rfl, -⟩ := scanFrom_cons_eq_ok scanned
    have kinds := shape_kind_of_not_inCode inside shaped
    have some : found.kind.isTrivia = false := by
      rcases kinds with kind | kind <;> rw [kind] <;> rfl
    rw [significantFrom, if_neg (by rw [some]; exact Bool.false_ne_true)] at head
    cases head
    rcases kinds with kind | kind <;> cases kind.symm.trans punctuation

/-- Template text that comes next in code, perhaps behind trivia, is a back quote that no punctuation
follows. -/
theorem backQuote_of_head {broken : Bool} (code : mode.InCode)
    (scanned : scanFrom mode previous offset s = .ok tokens)
    (head : significantFrom broken tokens = t :: after) (template : t.kind = .templateText) :
    t.IsBackQuote ∧ ∀ q, after.head? = some q → q.kind ≠ .punctuation := by
  induction tokens generalizing mode previous offset s broken with
  | nil => cases head
  | cons first tokens ih =>
    obtain ⟨c, u, w, found, -, shaped, takes, rfl, rest⟩ := scanFrom_cons_eq_ok scanned
    rw [significantFrom] at head
    split at head
    · next trivial =>
      have string : found.kind.isString = false := by
        cases kind : found.kind <;> rw [kind] at trivial <;> first | rfl | cases trivial
      exact ih (inCode_of_shape code shaped string) rest head
    · cases head
      obtain ⟨quote, more, left⟩ := shape_templateText_of_inCode code shaped template
      have text : (⟨found.kind, String.ofList (c :: u), offset, broken⟩ : Token).IsBackQuote := by
        rw [takes.eq_nil more, quote]
        exact ⟨template, rfl⟩
      exact ⟨text, fun q next punctuation => left (inCode_of_head? rest next punctuation)⟩

/-- Template text before punctuation is a back quote. -/
theorem backQuote_of_punctuation {before : List Token} {q : Token} {source : List Char}
    (scanned : scan source = .ok tokens) (split : significant tokens = before ++ t :: q :: after)
    (template : t.kind = .templateText) (punctuation : q.kind = .punctuation) :
    t.IsBackQuote := by
  obtain ⟨raw, t', raw', rfl, -, same, -, next⟩ := significantFrom_split split
  obtain ⟨mode, previous, offset, s, scanned⟩ := scanFrom_append scanned
  obtain ⟨c, u, w, found, -, shaped, takes, rfl, rest⟩ := scanFrom_cons_eq_ok scanned
  rw [same] at template ⊢
  have code := inCode_of_head? rest (congrArg List.head? next) punctuation
  obtain ⟨quote, more⟩ := shape_templateText_before_code shaped template code
  refine ⟨template, ?_⟩
  rw [takes.eq_nil more, quote]

/-- Template text behind punctuation is a back quote that no punctuation follows. -/
theorem backQuote_behind_punctuation {before : List Token} {p : Token} {source : List Char}
    (scanned : scan source = .ok tokens) (split : significant tokens = before ++ p :: t :: after)
    (punctuation : p.kind = .punctuation) (template : t.kind = .templateText) :
    t.IsBackQuote ∧ ∀ q, after.head? = some q → q.kind ≠ .punctuation := by
  obtain ⟨raw, p', raw', rfl, -, same, -, next⟩ := significantFrom_split split
  obtain ⟨mode, previous, offset, s, scanned⟩ := scanFrom_append scanned
  obtain ⟨c, u, w, found, -, shaped, -, rfl, rest⟩ := scanFrom_cons_eq_ok scanned
  have kind : found.kind = .punctuation := by
    rw [same] at punctuation
    exact punctuation
  have code : mode.InCode := by
    by_contra inside
    rcases shape_kind_of_not_inCode inside shaped with other | other <;>
      cases kind.symm.trans other
  exact backQuote_of_head (inCode_of_shape code shaped (by rw [kind]; rfl)) rest next template

end Lexer

/-! ## What an argument has to be -/

/-- An argument is what some tokens of a source spell from the first to the last of them. It has a
value exactly if they are one quoted string or one template literal without substitutions. -/
structure Argument.Spells (source : List Char) (tokens : List Token) (a : Argument) : Prop where
  start : tokens.head?.map Token.start = some a.start
  stop : tokens.getLast?.map Token.stop = some a.stop
  raw : ∃ before after, source = before ++ a.raw.toList ++ after ∧ before.length = a.start ∧
    a.start + a.raw.length = a.stop
  literal : a.literal.isSome = true ↔ IsString tokens ∨ IsTemplate tokens

/-- Whether a group of tokens is taken for one argument with the value that it should have: its commas
are in brackets, and if it is template text alone it is a single literal. -/
def IsOneArgument (tokens : List Token) : Prop :=
  Nested false tokens ∧ (AllTemplateText tokens → IsTemplate tokens)

section Source

variable {source : List Char} {tokens before after more : List Token} {t p q first : Token}

theorem exists_spelled_of_mem (scanned : scan source = .ok tokens)
    (member : t ∈ significant tokens) :
    ∃ left right, source = left ++ t.text.toList ++ right ∧ left.length = t.start := by
  obtain ⟨before, after, split⟩ := List.append_of_mem member
  obtain ⟨raw, t', raw', rfl, -, same, -⟩ := significantFrom_split split
  obtain ⟨right, spelled, start, -⟩ := (scan_covers scanned).split
  rw [same]
  exact ⟨spelling raw, right, spelled, by rw [start, Nat.zero_add]⟩

theorem backQuote_spelled (scanned : scan source = .ok tokens) (member : t ∈ significant tokens)
    (quote : t.IsBackQuote) : source[t.start]? = some '`' ∧ t.stop = t.start + 1 := by
  obtain ⟨left, right, rfl, start⟩ := exists_spelled_of_mem scanned member
  have one : "`".length = 1 := by decide
  rw [Token.stop, ← start, quote.2, one]
  simp

/-- The tokens of a group lie in the source one after the other. -/
theorem bounds_of_group {init : List Token} {last : Token} (scanned : scan source = .ok tokens)
    (split : significant tokens = before ++ first :: (more ++ after))
    (spelled : first :: more = init ++ [last]) :
    first.start < last.stop ∧ last.stop ≤ source.length ∧ (more ≠ [] → first.stop < last.stop) := by
  have ascending := significant_ascending scanned
  have stop : significant tokens = (before ++ init) ++ last :: after := by
    rw [split, ← List.cons_append, spelled]
    simp
  obtain ⟨-, -, inside⟩ := (stop ▸ ascending).of_append
  obtain ⟨-, some, later⟩ := (split ▸ ascending).of_append
  have further : more ≠ [] → first.stop < last.stop := by
    intro more'
    have member : last ∈ more := by
      have ends : (first :: more).getLast? = .some last := by
        rw [spelled, List.getLast?_concat]
      rw [List.getLast?_cons_of_ne_nil more'] at ends
      exact List.mem_of_getLast? ends
    obtain ⟨between, rest, rfl⟩ := List.append_of_mem member
    rw [List.append_assoc, List.cons_append] at later
    obtain ⟨le, some', -⟩ := later.of_append
    omega
  refine ⟨?_, inside.le, further⟩
  by_cases alone : more = []
  · subst alone
    have spelled' : [] ++ [first] = init ++ [last] := spelled
    obtain ⟨-, same⟩ := List.append_inj' spelled' rfl
    cases same
    exact some
  · have := further alone
    omega

theorem slice_spelled {start stop : Nat} (le : start ≤ stop) (inside : stop ≤ source.length) :
    ∃ left right, source = left ++ slice source start stop ++ right ∧ left.length = start ∧
      start + (slice source start stop).length = stop := by
  refine ⟨source.take start, source.drop stop, ?_, List.length_take_of_le (by omega), ?_⟩
  · rw [List.append_assoc, slice]
    conv_lhs => rw [← List.take_append_drop start source,
      ← List.take_append_drop (stop - start) (source.drop start), List.drop_drop,
      Nat.add_sub_cancel' le]
  · rw [slice, List.length_take, List.length_drop]
    omega

theorem head?_slice {start stop : Nat} (lt : start < stop) :
    (slice source start stop).head? = source[start]? := by
  rw [slice, List.head?_take, if_neg (by omega), List.head?_drop]

theorem getLast?_slice {start stop : Nat} (lt : start < stop) (inside : stop ≤ source.length) :
    (slice source start stop).getLast? = source[stop - 1]? := by
  have length : (slice source start stop).length = stop - start := by
    rw [slice, List.length_take, List.length_drop]
    omega
  rw [List.getLast?_eq_getElem?, length, slice, List.getElem?_take_of_lt (by omega),
    List.getElem?_drop]
  congr 1
  omega

theorem isQuoted_iff : Argument.isQuoted tokens = true ↔ IsString tokens := by
  unfold Argument.isQuoted IsString
  split <;> simp_all

/-- Between punctuation, tokens of template text alone stand between back quotes. -/
theorem isTemplate_iff {init : List Token} {last : Token} (scanned : scan source = .ok tokens)
    (split : significant tokens = before ++ p :: (first :: more ++ q :: after))
    (opens : p.kind = .punctuation) (closes : q.kind = .punctuation)
    (spelled : first :: more = init ++ [last]) :
    Argument.isTemplate (first :: more) (slice source first.start last.stop) = true ↔
      AllTemplateText (first :: more) := by
  have start : significant tokens = before ++ p :: first :: (more ++ q :: after) := split
  have stop : significant tokens = (before ++ p :: init) ++ last :: q :: after := by
    rw [split, spelled]
    simp
  constructor
  · intro template
    simp only [Argument.isTemplate, Bool.and_eq_true, List.all_eq_true, beq_iff_eq] at template
    exact template.1.1.1
  · intro template
    obtain ⟨opener, further⟩ := backQuote_behind_punctuation scanned start opens
      (template first List.mem_cons_self)
    have closer := backQuote_of_punctuation scanned stop
      (template last (by rw [spelled]; simp)) closes
    obtain ⟨isOpener, short⟩ := backQuote_spelled scanned (by rw [start]; simp) opener
    obtain ⟨isCloser, one⟩ := backQuote_spelled scanned (by rw [stop]; simp) closer
    have more' : more ≠ [] := by
      rintro rfl
      exact further q rfl closes
    have start' : significant tokens = (before ++ [p]) ++ first :: (more ++ q :: after) := by
      rw [start]
      simp
    obtain ⟨-, inside, apart⟩ := bounds_of_group scanned start' spelled
    have long := apart more'
    have all : (first :: more).all (·.kind == .templateText) = true := by
      simpa [List.all_eq_true, AllTemplateText] using template
    have length : 2 ≤ (slice source first.start last.stop).length := by
      rw [slice, List.length_take, List.length_drop]
      omega
    rw [Argument.isTemplate, all, head?_slice (by omega), getLast?_slice (by omega) inside, isOpener,
      one, Nat.add_sub_cancel, isCloser, decide_eq_true (one ▸ length)]
    rfl

/-- The argument that a group of tokens makes up is what they spell, unless they are template literals
side by side. -/
theorem spells_ofTokens (scanned : scan source = .ok tokens)
    (split : significant tokens = before ++ p :: (first :: more ++ q :: after))
    (opens : p.kind = .punctuation) (closes : q.kind = .punctuation) :
    (Argument.ofTokens source first more).Spells source (first :: more) ↔
      (AllTemplateText (first :: more) → IsTemplate (first :: more)) := by
  obtain ⟨init, last, spelled⟩ : ∃ init last, first :: more = init ++ [last] :=
    ⟨_, _, (List.dropLast_append_getLast (List.cons_ne_nil first more)).symm⟩
  have ends : (first :: more).getLast? = some last := by
    rw [spelled, List.getLast?_concat]
  have made : Argument.ofTokens source first more = ⟨first.start, last.stop,
      String.ofList (slice source first.start last.stop),
      Argument.literalOf (first :: more) (slice source first.start last.stop)⟩ := by
    rw [Argument.ofTokens, ends]
    rfl
  have isSome : (Argument.literalOf (first :: more) (slice source first.start last.stop)).isSome =
      true ↔ IsString (first :: more) ∨ AllTemplateText (first :: more) := by
    rw [← isQuoted_iff, ← isTemplate_iff scanned split opens closes spelled, Argument.literalOf,
      ← Bool.or_eq_true]
    split <;> simp_all
  rw [made]
  constructor
  · intro spells template
    rcases spells.literal.1 (isSome.2 (Or.inr template)) with ⟨t, same, kind⟩ | literal
    · have := template first List.mem_cons_self
      cases same
      rw [this] at kind
      rcases kind with kind | kind <;> cases kind
    · exact literal
  · intro single
    have split' : significant tokens = (before ++ [p]) ++ first :: (more ++ q :: after) := by
      rw [split]
      simp
    obtain ⟨lt, inside, -⟩ := bounds_of_group scanned split' spelled
    refine ⟨rfl, by rw [ends]; rfl, ?_, ?_⟩
    · obtain ⟨left, right, source_eq, length, total⟩ := slice_spelled (Nat.le_of_lt lt) inside
      exact ⟨left, right, by rwa [String.toList_ofList], length, by rwa [String.length_ofList]⟩
    · rw [isSome]
      exact or_congr_right ⟨single, IsTemplate.allTemplateText⟩

/-- The first comma that is not in brackets ends an argument. -/
theorem splitArguments_at_comma {group rest : List Token} {comma : Token} {arguments : List Argument}
    (nested : Nested false group) (isComma : comma.isPunctuation "," = true)
    (split : splitArguments source 0 [] (group ++ comma :: rest) = .ok arguments) :
    ∃ first more arguments', group = first :: more ∧
      arguments = Argument.ofTokens source first more :: arguments' ∧
      splitArguments source 0 [] rest = .ok arguments' := by
  have plain : comma.opens = false ∧ comma.closes = false := by
    obtain ⟨kind, text⟩ := Token.isPunctuation_iff.1 isComma
    simp [Token.opens, Token.closes, kind, text, Token.closerOf, Token.isCloserText]
  rw [nested.splitArguments_append source 0 (absurd · Bool.false_ne_true), List.append_nil,
    splitArguments, plain.1, plain.2] at split
  simp only [Bool.false_eq_true, if_false, isComma, and_self, if_true, List.reverse_reverse] at split
  cases group with
  | nil => cases split
  | cons first more =>
    obtain ⟨arguments', later, rfl⟩ := map_ok split
    exact ⟨first, more, arguments', rfl, rfl, later⟩

theorem splitArguments_nested (nested : Nested false (first :: more)) :
    splitArguments source 0 [] (first :: more) = .ok [Argument.ofTokens source first more] := by
  have whole := nested.splitArguments_append source 0 (absurd · Bool.false_ne_true) [] []
  rw [List.append_nil, List.append_nil] at whole
  rw [whole, splitArguments, List.reverse_reverse]

/-- A comma that is not in brackets cuts a whole expression short. -/
theorem not_spells_of_not_nested {group rest : List Token} {arguments : List Argument}
    (whole : Whole false group) (open' : ¬Nested false group) (scanned : scan source = .ok tokens)
    (split : significant tokens = before ++ (group ++ after))
    (found : splitArguments source 0 [] (group ++ rest) = .ok arguments) :
    ∃ a arguments', arguments = a :: arguments' ∧ ¬a.Spells source group := by
  have proper : ∀ t ∈ group, t.IsProper := fun t member =>
    (lexed_of_scan scanned).proper t (by simp [split, member])
  obtain ⟨left, comma, right, rfl, isComma, nested⟩ :=
    (whole.nested_or_comma proper).resolve_left open'
  rw [List.append_assoc, List.cons_append] at found
  obtain ⟨first, more, arguments', rfl, rfl, -⟩ := splitArguments_at_comma nested isComma found
  refine ⟨_, arguments', rfl, fun spells => ?_⟩
  obtain ⟨init, last, spelled⟩ : ∃ init last, first :: more = init ++ [last] :=
    ⟨_, _, (List.dropLast_append_getLast (List.cons_ne_nil first more)).symm⟩
  obtain ⟨init', last', spelled'⟩ : ∃ init' last', last :: comma :: right = init' ++ [last'] :=
    ⟨_, _, (List.dropLast_append_getLast (List.cons_ne_nil last (comma :: right))).symm⟩
  have split' : significant tokens = (before ++ init) ++ last :: (comma :: right ++ after) := by
    rw [split, spelled]
    simp
  have later : last.stop < last'.stop :=
    (bounds_of_group scanned split' spelled').2.2 (List.cons_ne_nil comma right)
  have whole : (first :: more) ++ comma :: right = (init ++ init') ++ [last'] := by
    rw [spelled, List.append_assoc, List.append_assoc, List.singleton_append, spelled']
  have stops := spells.stop
  rw [whole, List.getLast?_concat, Argument.ofTokens, spelled, List.getLast?_concat] at stops
  exact Nat.ne_of_gt later (Option.some.inj stops)

/-- Whole expressions between commas are the arguments exactly if each is taken for one. -/
theorem Listed.spells_iff {groups : List (List Token)} {inside : List Token}
    {arguments : List Argument} (listed : Listed groups inside) (scanned : scan source = .ok tokens)
    (split : significant tokens = before ++ p :: (inside ++ q :: after))
    (opens : p.kind = .punctuation) (closes : q.kind = .punctuation)
    (found : splitArguments source 0 [] inside = .ok arguments) :
    List.Forall₂ (Argument.Spells source) groups arguments ↔ ∀ g ∈ groups, IsOneArgument g := by
  induction listed generalizing before p arguments with
  | nil =>
    cases found
    simp
  | @last group some whole =>
    by_cases nested : Nested false group
    · obtain ⟨first, more, rfl⟩ := List.exists_cons_of_ne_nil some
      rw [splitArguments_nested nested] at found
      cases found
      have spells := spells_ofTokens scanned split opens closes
      simp [spells, IsOneArgument, nested]
    · have found' : splitArguments source 0 [] (group ++ []) = .ok arguments := by
        rwa [List.append_nil]
      have split' : significant tokens = (before ++ [p]) ++ (group ++ q :: after) := by
        rw [split]
        simp
      obtain ⟨a, arguments', rfl, other⟩ :=
        not_spells_of_not_nested whole nested scanned split' found'
      simp [other, IsOneArgument, nested]
  | @cons group inside groups comma isComma some whole later ih =>
    have punctuation := (Token.isPunctuation_iff.1 isComma).1
    rw [List.append_assoc, List.cons_append] at split
    by_cases nested : Nested false group
    · obtain ⟨first, more, arguments', rfl, rfl, rest⟩ := splitArguments_at_comma nested isComma found
      have spells := spells_ofTokens scanned split opens punctuation
      have split' : significant tokens =
          (before ++ p :: first :: more) ++ comma :: (inside ++ q :: after) := by
        rw [split]
        simp
      have ih' := ih split' punctuation rest
      simp [spells, ih', IsOneArgument, nested]
    · have split' : significant tokens =
          (before ++ [p]) ++ (group ++ comma :: (inside ++ q :: after)) := by
        rw [split]
        simp
      obtain ⟨a, arguments', rfl, other⟩ :=
        not_spells_of_not_nested whole nested scanned split' found
      simp [other, IsOneArgument, nested]

/-! ## Calls -/

/-- Each call that a run reports is read off some of its tokens. -/
theorem exists_callAt_of_run {names : List String} {toCome : List Token} {u f : State}
    {previous : Option Token} {call : Call}
    (ran : u.run source names previous toCome = .ok f) (member : call ∈ f.calls) :
    call ∈ u.calls ∨ ∃ before t rest taken, toCome = before ++ t :: rest ∧ t.kind = .plainName ∧
      textIs "(" rest.head? = true ∧ callAt source t rest = .ok (call, taken) := by
  fun_induction State.run source names u previous toCome with
  | case1 =>
    cases ran
    exact Or.inl member
  | case2 => cases ran
  | case3 => cases ran
  | case4 u previous t rest u' taken step ih =>
    rcases ih ran with earlier | ⟨before, t', rest', taken', split, found⟩
    · cases step_effect step with
      | quiet same => exact Or.inl (same.1 ▸ earlier)
      | opened calls references marks => exact Or.inl (calls ▸ earlier)
      | closed calls marks references => exact Or.inl (calls ▸ earlier)
      | reported shorthand plain simple follows uncalled calls references marks =>
        exact Or.inl (calls ▸ earlier)
      | called plain named opens found calls references marks =>
        rw [calls] at earlier
        rcases List.mem_cons.1 earlier with rfl | earlier
        · exact Or.inr ⟨[], t, rest, taken, rfl, plain, opens, found⟩
        · exact Or.inl earlier
    · refine Or.inr ⟨t :: rest.take taken ++ before, t', rest', taken', ?_, found⟩
      rw [List.cons_append, List.cons_append, List.append_assoc, ← split, List.take_append_drop]

/-- Tokens of a script that begin at one place are one. -/
theorem eq_of_start_eq {before' after' : List Token} {u : Token} (scanned : scan source = .ok tokens)
    (split : significant tokens = before ++ t :: after)
    (split' : significant tokens = before' ++ u :: after') (same : t.start = u.start) :
    t = u ∧ after = after' := by
  have ascending := (significant_ascending scanned).pairwise.2
  rcases List.append_eq_append_iff.1 (split.symm.trans split') with ⟨v, rfl, rest⟩ | ⟨v, rfl, rest⟩
  · cases v with
    | nil => exact List.cons.inj rest
    | cons head v =>
      obtain ⟨rfl, rfl⟩ := List.cons.inj rest
      rw [split] at ascending
      have lt := (List.pairwise_cons.1 (List.pairwise_append.1 ascending).2.1).1 u (by simp)
      omega
  · cases v with
    | nil => exact ⟨(List.cons.inj rest).1.symm, (List.cons.inj rest).2.symm⟩
    | cons head v =>
      obtain ⟨rfl, rfl⟩ := List.cons.inj rest
      rw [split'] at ascending
      have lt := (List.pairwise_cons.1 (List.pairwise_append.1 ascending).2.1).1 t (by simp)
      omega

/-- A reported call whose argument list is made of whole expressions with commas between them ends at
the bracket behind them, and its arguments are these expressions exactly if each of them is taken for
one argument. -/
theorem parse_arguments {names : List String} {tree : Tree} {callee opener close : Token}
    {inside : List Token} {groups : List (List Token)} {call : Call}
    (parsed : parse names source = .ok tree) (scanned : scan source = .ok tokens)
    (split : significant tokens = before ++ callee :: opener :: (inside ++ close :: after))
    (closes : close.isPunctuation ")" = true) (listed : Listed groups inside)
    (reported : call ∈ tree.calls) (start : call.start = callee.start) :
    call.callee = ⟨callee.text, callee.start, false⟩ ∧ call.stop = close.stop ∧
      (List.Forall₂ (Argument.Spells source) groups call.arguments ↔
        ∀ g ∈ groups, IsOneArgument g) := by
  have lexed := lexed_of_scan scanned
  obtain ⟨closing, bracket⟩ := Token.isPunctuation_iff.1 closes
  obtain ⟨before', t, rest, taken, split', plain, opens, found⟩ :
      ∃ before t rest taken, significant tokens = before ++ t :: rest ∧ t.kind = .plainName ∧
        textIs "(" rest.head? = true ∧ callAt source t rest = .ok (call, taken) := by
    unfold parse at parsed
    rw [scanned] at parsed
    dsimp only at parsed
    split at parsed
    · cases parsed
    · next f ran =>
      cases parsed
      exact (exists_callAt_of_run ran (List.mem_reverse.1 reported)).resolve_left nofun
  have same : callee.start = t.start := by
    obtain ⟨_, _, _, _, _, _, _, _, _, made⟩ := callAt_eq_ok found
    rw [made] at start
    exact start.symm
  obtain ⟨rfl, rfl⟩ := eq_of_start_eq scanned split split' same
  have closed : takeClosed 0 (inside ++ close :: after) = some (inside, close) := by
    have proper : ∀ t ∈ inside, t.IsProper := fun t member =>
      lexed.proper t (by simp [split, member])
    have matching : Token.closerOf (Token.mk .punctuation "(" 0 false).text = some close.text :=
      bracket ▸ rfl
    obtain ⟨notOpens, isCloser, -⟩ := closes_of_matching closing matching
    exact (listed.balanced.nested proper).takeClosed_eq notOpens isCloser after
  simp only [callAt, closed] at found
  cases arguments : splitArguments source 0 [] inside with
  | error defect =>
    rw [arguments] at found
    cases found
  | ok arguments' =>
    rw [arguments] at found
    cases found
    have opening : opener.kind = .punctuation :=
      lexed.named before callee opener _ split plain (by simpa [textIs] using opens)
    have split' : significant tokens = (before ++ [callee]) ++ opener :: (inside ++ close :: after) := by
      rw [split]
      simp
    exact ⟨rfl, rfl, listed.spells_iff scanned split' opening closing arguments⟩

end Source

/-- An array before a trailing comma is one argument. -/
theorem parse_arguments_of_array : ∃ tree call array inside,
    parse ["f"] "f([a, b],)".toList = .ok tree ∧ tree.calls = [call] ∧ Listed [array] inside ∧
      List.Forall₂ (Argument.Spells "f([a, b],)".toList) [array] call.arguments := by
  let array : List Token := [⟨.punctuation, "[", 2, false⟩, ⟨.plainName, "a", 3, false⟩,
    ⟨.punctuation, ",", 4, false⟩, ⟨.plainName, "b", 6, false⟩, ⟨.punctuation, "]", 7, false⟩]
  let call : Call := ⟨⟨"f", 0, false⟩, 10, [⟨2, 8, "[a, b]", none⟩]⟩
  have parsed : parse ["f"] "f([a, b],)".toList = .ok ⟨"f([a, b],)".toList, [], [call]⟩ := by
    decide +kernel
  let tokens : List Token := [⟨.plainName, "f", 0, false⟩, ⟨.punctuation, "(", 1, false⟩,
    ⟨.punctuation, "[", 2, false⟩, ⟨.plainName, "a", 3, false⟩, ⟨.punctuation, ",", 4, false⟩,
    ⟨.blank, " ", 5, false⟩, ⟨.plainName, "b", 6, false⟩, ⟨.punctuation, "]", 7, false⟩,
    ⟨.punctuation, ",", 8, false⟩, ⟨.punctuation, ")", 9, false⟩]
  have scanned : scan "f([a, b],)".toList = .ok tokens := by decide +kernel
  let entries : List Token := [⟨.plainName, "a", 3, false⟩, ⟨.punctuation, ",", 4, false⟩,
    ⟨.plainName, "b", 6, false⟩]
  have within : Whole true entries := .of_forall (by decide)
  have whole : Whole false array :=
    .around ⟨.punctuation, "[", 2, false⟩ ⟨.punctuation, "]", 7, false⟩ rfl rfl rfl within .nil
  have within' : Nested true entries :=
    .plain _ (by decide) (by decide) (Or.inl rfl) (.plain _ (by decide) (by decide) (Or.inl rfl)
      (.plain _ (by decide) (by decide) (Or.inl rfl) .nil))
  have nested : Nested false array := .brackets _ _ rfl rfl (by decide) within' .nil
  have listed : Listed [array] (array ++ [⟨.punctuation, ",", 8, false⟩]) :=
    .cons _ (by decide) (List.cons_ne_nil _ _) whole .nil
  have one : IsOneArgument array := by
    refine ⟨nested, fun template => ?_⟩
    cases template _ List.mem_cons_self
  have split : significant tokens = [] ++ ⟨.plainName, "f", 0, false⟩ :: ⟨.punctuation, "(", 1, false⟩ ::
      (array ++ [⟨.punctuation, ",", 8, false⟩] ++ ⟨.punctuation, ")", 9, false⟩ :: []) := by
    decide
  obtain ⟨-, -, spells⟩ :=
    parse_arguments parsed scanned split (by decide) listed (List.mem_singleton_self call) rfl
  exact ⟨_, call, array, _, parsed, rfl, listed, spells.2 (by simpa using one)⟩

/-- The comma of a substitution splits the template literal around it. -/
theorem parse_arguments_fails : ∃ tree tokens before callee opener inside close after call,
    parse ["f"] "f(`$\x7ba, b\x7d`)".toList = .ok tree ∧ scan "f(`$\x7ba, b\x7d`)".toList = .ok tokens ∧
      significant tokens = before ++ callee :: opener :: (inside ++ close :: after) ∧
      close.isPunctuation ")" = true ∧ Listed [inside] inside ∧ call ∈ tree.calls ∧
      call.start = callee.start ∧
      ¬List.Forall₂ (Argument.Spells "f(`$\x7ba, b\x7d`)".toList) [inside] call.arguments := by
  let inside : List Token := [⟨.templateText, "`", 2, false⟩, ⟨.substitution, "$\x7b", 3, false⟩,
    ⟨.plainName, "a", 5, false⟩, ⟨.punctuation, ",", 6, false⟩, ⟨.plainName, "b", 8, false⟩,
    ⟨.substitution, "\x7d", 9, false⟩, ⟨.templateText, "`", 10, false⟩]
  let call : Call := ⟨⟨"f", 0, false⟩, 12, [⟨2, 6, "`$\x7ba", none⟩, ⟨8, 11, "b\x7d`", none⟩]⟩
  have parsed : parse ["f"] "f(`$\x7ba, b\x7d`)".toList =
      .ok ⟨"f(`$\x7ba, b\x7d`)".toList, [], [call]⟩ := by
    decide +kernel
  have scanned : scan "f(`$\x7ba, b\x7d`)".toList = .ok
      [⟨.plainName, "f", 0, false⟩, ⟨.punctuation, "(", 1, false⟩, ⟨.templateText, "`", 2, false⟩,
        ⟨.substitution, "$\x7b", 3, false⟩, ⟨.plainName, "a", 5, false⟩, ⟨.punctuation, ",", 6, false⟩,
        ⟨.blank, " ", 7, false⟩, ⟨.plainName, "b", 8, false⟩, ⟨.substitution, "\x7d", 9, false⟩,
        ⟨.templateText, "`", 10, false⟩, ⟨.punctuation, ")", 11, false⟩] := by
    decide +kernel
  have within : Whole true [⟨.plainName, "a", 5, false⟩, ⟨.punctuation, ",", 6, false⟩,
      ⟨.plainName, "b", 8, false⟩] := .of_forall (by decide)
  have behind : Whole false [⟨.templateText, "`", 10, false⟩] := .of_forall (by decide)
  have whole : Whole false inside :=
    .plain _ (by decide) (by decide) (Or.inr (by decide))
      (.around ⟨.substitution, "$\x7b", 3, false⟩ ⟨.substitution, "\x7d", 9, false⟩ rfl rfl rfl within
        behind)
  refine ⟨_, _, [], ⟨.plainName, "f", 0, false⟩, ⟨.punctuation, "(", 1, false⟩, inside,
    ⟨.punctuation, ")", 11, false⟩, [], call, parsed, scanned, by decide, by decide,
    .last (List.cons_ne_nil _ _) whole, by simp, rfl, fun spells => ?_⟩
  cases spells.length_eq

end Folio.Script
