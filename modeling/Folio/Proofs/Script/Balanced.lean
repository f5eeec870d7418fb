import Folio.Proofs.Script.Nesting
import Folio.Proofs.Script.Weave

/-!
# Balanced brackets

Brackets and the marks of substitutions are balanced if each that closes has the text that the last
one open awaits (`Balanced`), and strictly so if both are brackets or both are marks. A reader that
keeps what is awaited on a stack accepts the balanced tokens (`balanced_iff`). The search for the end
of a call goes by a count of the brackets alone: it passes over strictly balanced tokens, but a bracket
of another kind, or a mark that closes a bracket, misleads it.
-/

namespace Folio.Script

/-! ## Tokens -/

namespace Token

/-- The text that closes what a token opens. -/
def awaits (t : Token) : Option String :=
  if t.kind = .substitution then if t.text = "\x7d" then none else some "\x7d"
  else if t.kind = .punctuation then closerOf t.text
  else none

/-- Whether a token closes a bracket or a substitution. -/
def ends (t : Token) : Bool :=
  if t.kind = .substitution then t.text == "\x7d"
  else t.kind == .punctuation && isCloserText t.text

/-- Whether a token that reads like a bracket outside strings is one. -/
def IsProper (t : Token) : Prop :=
  t.opens = true ∨ t.closes = true → t.kind = .punctuation

variable {t : Token}

theorem awaits_of_ends (ends : t.ends = true) : t.awaits = none := by
  unfold Token.ends at ends
  unfold awaits
  split at ends
  · next mark => rw [if_pos mark, if_pos (by simpa using ends)]
  · next other =>
    rw [if_neg other]
    obtain ⟨punctuation, closer⟩ := Bool.and_eq_true_iff.1 ends
    rw [if_pos (by simpa using punctuation)]
    simp only [isCloserText, Bool.or_eq_true, beq_iff_eq] at closer
    rcases closer with (text | text) | text <;> rw [text] <;> decide

/-- A token that neither opens nor closes anything is no bracket. -/
theorem IsProper.plain (proper : t.IsProper) (opens : t.awaits = none) (closes : t.ends = false) :
    t.opens = false ∧ t.closes = false := by
  unfold awaits at opens
  unfold ends at closes
  by_cases mark : t.kind = .substitution
  · simp [Token.opens, Token.closes, mark, Kind.isString]
  rw [if_neg mark] at opens closes
  constructor
  · refine Bool.eq_false_iff.2 fun bracket => ?_
    rw [if_pos (proper (Or.inl bracket))] at opens
    simp [Token.opens, opens] at bracket
  · refine Bool.eq_false_iff.2 fun bracket => ?_
    have closer := (Bool.and_eq_true_iff.1 bracket).2
    simp [proper (Or.inr bracket), closer] at closes

theorem plain_of_not_bracket (code : t.kind ≠ .substitution) (opens : t.opens = false)
    (closes : t.closes = false) : t.awaits = none ∧ t.ends = false := by
  unfold awaits ends
  rw [if_neg code, if_neg code]
  by_cases punctuation : t.kind = .punctuation
  · rw [if_pos punctuation]
    simp only [Token.opens, Token.closes, punctuation, Kind.isString] at opens closes
    exact ⟨by simpa using opens, by simpa [punctuation] using closes⟩
  · simp [punctuation]

/-- The marks of a substitution are no punctuation. -/
theorem not_bracket_of_mark (mark : t.kind = .substitution) :
    t.opens = false ∧ t.closes = false ∧ t.isPunctuation "," = false := by
  simp [Token.opens, Token.closes, Token.isPunctuation, mark, Kind.isString]

/-- Two tokens of one kind that match are the marks of a substitution or brackets. -/
theorem awaits_cases {opener close : Token} (matching : opener.awaits = some close.text)
    (kinds : close.kind = opener.kind) :
    opener.kind = .substitution ∧ close.kind = .substitution ∨
      opener.kind = .punctuation ∧ close.kind = .punctuation ∧
        closerOf opener.text = some close.text := by
  by_cases mark : opener.kind = .substitution
  · exact Or.inl ⟨mark, kinds.trans mark⟩
  · unfold awaits at matching
    rw [if_neg mark] at matching
    split at matching
    · next opening => exact Or.inr ⟨opening, kinds.trans opening, matching⟩
    · cases matching

end Token

/-! ## Tokens of a scan -/

section Scan

variable {mode : Mode} {previous : Option Char} {offset : Nat} {s : List Char}
  {tokens : List Token}

theorem codeShape_bracket {c : Char} {r : List Char} (bracket : c = '(' ∨ c = '[' ∨ c = '\x7b') :
    codeShape mode previous c r = some ⟨.punctuation, 0, ⟨mode.nesting, true⟩⟩ := by
  rcases bracket with rfl | rfl | rfl
  · exact codeShape_opener
  · rw [codeShape_eq_plainShape (by decide)
      (triviaShape_eq_none_of_first (by decide) (by decide) (by decide)) (by decide)]
    rfl
  · rw [codeShape_eq_plainShape (by decide)
      (triviaShape_eq_none_of_first (by decide) (by decide) (by decide)) (by decide)]
    rfl

/-- The bracket that a token of a scan begins with is punctuation, or belongs to a template. -/
theorem shape_bracket {c : Char} {r : List Char} {found : Shape}
    (shaped : shape mode previous c r = some found) (outside : found.kind.isString = false)
    (bracket : (c = '(' ∨ c = '[' ∨ c = '\x7b') ∨ c = ')' ∨ c = ']' ∨ c = '\x7d') :
    found.kind = .punctuation := by
  by_cases code : mode.InCode
  · rcases shape_of_inCode code shaped with ⟨rfl, -⟩ | shaped
    · cases outside
    · rcases bracket with opener | closer
      · rw [codeShape_bracket opener] at shaped
        cases shaped
        rfl
      · rw [codeShape_closer closer] at shaped
        cases shaped
        rfl
  · obtain ⟨outer, nesting⟩ := exists_of_not_inCode code
    unfold shape at shaped
    rw [nesting] at shaped
    rcases templateShape_kind shaped with ⟨kind, -⟩ | ⟨kind, -⟩ <;> rw [kind] at outside <;>
      cases outside

theorem isProper_of_scanFrom (scanned : scanFrom mode previous offset s = .ok tokens) :
    ∀ t ∈ tokens, t.IsProper := by
  induction tokens generalizing mode previous offset s with
  | nil => exact nofun
  | cons t tokens ih =>
    obtain ⟨c, u, w, found, -, shaped, -, rfl, rest⟩ := scanFrom_cons_eq_ok scanned
    refine List.forall_mem_cons.2 ⟨fun bracket => ?_, ih rest⟩
    have first {d : Char} (text : String.ofList (c :: u) = String.ofList [d]) : c = d :=
      (List.cons.inj (String.ofList_inj.1 text)).1
    rcases bracket with opens | closes
    · obtain ⟨outside, opener⟩ := Bool.and_eq_true_iff.1 opens
      obtain ⟨closer, matching⟩ := Option.isSome_iff_exists.1 opener
      refine shape_bracket shaped (by simpa using outside) (Or.inl ?_)
      rcases closerOf_cases matching with ⟨text, -⟩ | ⟨text, -⟩ | ⟨text, -⟩
      · exact Or.inl (first text)
      · exact Or.inr (Or.inl (first text))
      · exact Or.inr (Or.inr (first text))
    · obtain ⟨outside, closer⟩ := Bool.and_eq_true_iff.1 closes
      refine shape_bracket shaped (by simpa using outside) (Or.inr ?_)
      simp only [Token.isCloserText, Bool.or_eq_true, beq_iff_eq] at closer
      rcases closer with (text | text) | text
      · exact Or.inl (first text)
      · exact Or.inr (Or.inl (first text))
      · exact Or.inr (Or.inr (first text))

/-- Trivia in code and names leave the lexer in code. -/
theorem inCode_of_shape {c : Char} {r : List Char} {found : Shape} (code : mode.InCode)
    (shaped : shape mode previous c r = some found) (string : found.kind.isString = false) :
    found.mode.InCode := by
  rcases shape_of_inCode code shaped with ⟨rfl, -⟩ | shaped
  · cases string
  · have nesting : found.mode.nesting = mode.nesting := by
      rcases codeShape_cases shaped with ⟨-, same⟩ | letter
      · exact same
      · rcases (letterShape_nesting letter).2 with same | ⟨kind, -⟩
        · exact same
        · rw [kind] at string
          cases string
    rwa [Mode.InCode, nesting]

/-- In code an opening bracket that comes next, perhaps behind trivia, is punctuation. -/
theorem punctuation_of_head? {broken : Bool} {t : Token} (code : mode.InCode)
    (scanned : scanFrom mode previous offset s = .ok tokens)
    (head : (significantFrom broken tokens).head? = some t) (opener : t.text = "(") :
    t.kind = .punctuation := by
  induction tokens generalizing mode previous offset s broken with
  | nil => cases head
  | cons first tokens ih =>
    obtain ⟨c, u, w, found, -, shaped, -, rfl, rest⟩ := scanFrom_cons_eq_ok scanned
    rw [significantFrom] at head
    split at head
    · next trivial =>
      have string : found.kind.isString = false := by
        cases kind : found.kind <;> rw [kind] at trivial <;> first | rfl | cases trivial
      exact ih (inCode_of_shape code shaped string) rest head
    · cases head
      have bracket : c = '(' := (List.cons.inj (String.ofList_inj.1 opener)).1
      rw [shape_eq_codeShape code (by rw [bracket]; decide),
        codeShape_bracket (Or.inl bracket)] at shaped
      cases shaped
      rfl

theorem scanFrom_append {before : List Token}
    (scanned : scanFrom mode previous offset s = .ok (before ++ tokens)) :
    ∃ mode previous offset s, scanFrom mode previous offset s = .ok tokens := by
  induction before generalizing mode previous offset s with
  | nil => exact ⟨_, _, _, _, scanned⟩
  | cons t before ih =>
    obtain ⟨c, u, w, found, -, -, -, -, rest⟩ := scanFrom_cons_eq_ok scanned
    exact ih rest

/-- An opening bracket behind a name is punctuation. -/
theorem punctuation_of_name {before after : List Token} {t t' : Token} {source : List Char}
    (scanned : scan source = .ok tokens)
    (split : significant tokens = before ++ t :: t' :: after) (name : t.kind = .plainName)
    (opener : t'.text = "(") : t'.kind = .punctuation := by
  obtain ⟨raw, u, raw', rfl, -, same, -, rest⟩ := significantFrom_split split
  obtain ⟨mode, previous, offset, s, scanned⟩ := scanFrom_append scanned
  obtain ⟨c, v, w, found, -, shaped, -, spelled, later⟩ := scanFrom_cons_eq_ok scanned
  have kind : found.kind = .plainName := by
    rw [same, spelled] at name
    exact name
  have code := inCode_of_shape (shape_name shaped kind).1 shaped (by rw [kind]; rfl)
  exact punctuation_of_head? code later (congrArg List.head? rest) opener

/-- Tokens of which those that read like brackets outside strings are brackets, an opening one behind
a name too. -/
structure Lexed (tokens : List Token) : Prop where
  proper : ∀ t ∈ tokens, t.IsProper
  named : ∀ before t t' after, tokens = before ++ t :: t' :: after → t.kind = .plainName →
    t'.text = "(" → t'.kind = .punctuation

theorem Lexed.of_suffix {tokens' : List Token} (lexed : Lexed tokens) (suffix : tokens' <:+ tokens) :
    Lexed tokens' := by
  obtain ⟨first, rfl⟩ := suffix
  refine ⟨fun t member => lexed.proper t (List.mem_append_right _ member), ?_⟩
  rintro before t t' after rfl
  exact lexed.named (first ++ before) t t' after (by simp)

theorem lexed_of_scan {source : List Char} (scanned : scan source = .ok tokens) :
    Lexed (significant tokens) := by
  refine ⟨fun t member => ?_, fun before t t' after split => punctuation_of_name scanned split⟩
  obtain ⟨before, after, split⟩ := List.append_of_mem member
  obtain ⟨raw, t', raw', rfl, -, same, -⟩ := significantFrom_split split
  rw [same]
  exact isProper_of_scanFrom scanned t' (by simp)

end Scan

/-! ## Balance -/

/-- Tokens of which each that closes has the text that the last one open awaits; if they are
`strict`, both are brackets or both are marks of a substitution. -/
inductive Balanced (strict : Bool) : List Token → Prop
  | nil : Balanced strict []
  | plain {tokens : List Token} (t : Token) (opens : t.awaits = none) (closes : t.ends = false)
      (later : Balanced strict tokens) : Balanced strict (t :: tokens)
  | around {inside tokens : List Token} (opener close : Token) (closes : close.ends = true)
      (matching : opener.awaits = some close.text)
      (kinds : strict = true → close.kind = opener.kind) (within : Balanced strict inside)
      (later : Balanced strict tokens) : Balanced strict (opener :: inside ++ close :: tokens)

/-- What is awaited after one more token, the innermost first. -/
def shift (awaited : List String) (t : Token) : Option (List String) :=
  match t.awaits with
  | some closer => some (closer :: awaited)
  | none =>
    if t.ends then
      match awaited with
      | [] => none
      | closer :: outer => if t.text = closer then some outer else none
    else some awaited

def shiftAll (awaited : List String) : List Token → Option (List String)
  | [] => some awaited
  | t :: rest => (shift awaited t).bind (shiftAll · rest)

section Shift

variable {t : Token} {awaited : List String}

theorem shift_plain (opens : t.awaits = none) (closes : t.ends = false) :
    shift awaited t = some awaited := by
  unfold shift
  rw [opens]
  simp [closes]

theorem shift_opener {closer : String} (opens : t.awaits = some closer) :
    shift awaited t = some (closer :: awaited) := by
  unfold shift
  rw [opens]

theorem shift_closer (closes : t.ends = true) : shift (t.text :: awaited) t = some awaited := by
  unfold shift
  rw [Token.awaits_of_ends closes]
  simp [closes]

/-- A token that closes finds its text awaited. -/
theorem shift_eq_some {after : List String} (closes : t.ends = true)
    (found : shift awaited t = some after) : awaited = t.text :: after := by
  unfold shift at found
  rw [Token.awaits_of_ends closes] at found
  simp only [closes, if_true] at found
  cases awaited with
  | nil => cases found
  | cons closer outer =>
    dsimp only at found
    split at found
    · next same =>
      cases found
      rw [same]
    · cases found

end Shift

namespace Balanced

variable {strict : Bool} {tokens tokens' : List Token}

theorem append (balanced : Balanced strict tokens) (balanced' : Balanced strict tokens') :
    Balanced strict (tokens ++ tokens') := by
  induction balanced with
  | nil => exact balanced'
  | plain t opens closes later ih => exact .plain t opens closes ih
  | around opener close closes matching kinds within later ihWithin ih =>
    rw [List.append_assoc, List.cons_append]
    exact .around opener close closes matching kinds within ih

theorem loosen (balanced : Balanced strict tokens) : Balanced false tokens := by
  induction balanced with
  | nil => exact .nil
  | plain t opens closes later ih => exact .plain t opens closes ih
  | around opener close closes matching kinds within later ihWithin ih =>
    exact .around opener close closes matching (absurd · Bool.false_ne_true) ihWithin ih

theorem shiftAll_append (balanced : Balanced strict tokens) (awaited : List String)
    (rest : List Token) : shiftAll awaited (tokens ++ rest) = shiftAll awaited rest := by
  induction balanced generalizing awaited rest with
  | nil => rfl
  | plain t opens closes later ih =>
    rw [List.cons_append, shiftAll, shift_plain opens closes]
    exact ih awaited rest
  | around opener close closes matching kinds within later ihWithin ih =>
    rw [List.append_assoc, List.cons_append, List.cons_append, shiftAll, shift_opener matching,
      Option.bind_some, ihWithin, shiftAll, shift_closer closes]
    exact ih awaited rest

end Balanced

/-- Tokens that close all that is awaited, with balanced ones before, between and after. -/
def Closing : List String → List Token → Prop
  | [], tokens => Balanced false tokens
  | closer :: outer, tokens => ∃ inside close later, tokens = inside ++ close :: later ∧
      Balanced false inside ∧ close.ends = true ∧ close.text = closer ∧ Closing outer later

theorem Closing.append {awaited : List String} {tokens first : List Token}
    (closing : Closing awaited tokens) (balanced : Balanced false first) :
    Closing awaited (first ++ tokens) := by
  cases awaited with
  | nil => exact balanced.append closing
  | cons closer outer =>
    obtain ⟨inside, close, later, rfl, within, closes, text, rest⟩ := closing
    exact ⟨first ++ inside, close, later, by simp, balanced.append within, closes, text, rest⟩

theorem closing_of_shiftAll {awaited : List String} {tokens : List Token}
    (accepted : shiftAll awaited tokens = some []) : Closing awaited tokens := by
  induction tokens generalizing awaited with
  | nil =>
    cases accepted
    exact .nil
  | cons t rest ih =>
    obtain ⟨after, shifted, later⟩ := Option.bind_eq_some_iff.1 accepted
    cases opens : t.awaits with
    | some closer =>
      rw [shift_opener opens] at shifted
      cases shifted
      obtain ⟨inside, close, after, rfl, within, closes, rfl, closing⟩ := ih later
      have around : Balanced false (t :: inside ++ close :: []) :=
        .around t close closes opens (absurd · Bool.false_ne_true) within .nil
      simpa using closing.append around
    | none =>
      cases closes : t.ends with
      | true =>
        cases shift_eq_some closes shifted
        exact ⟨[], t, rest, rfl, .nil, closes, rfl, ih later⟩
      | false =>
        rw [shift_plain opens closes] at shifted
        cases shifted
        exact (ih later).append (.plain t opens closes .nil)

/-- The reader with a stack accepts the balanced tokens. -/
theorem balanced_iff {tokens : List Token} :
    Balanced false tokens ↔ shiftAll [] tokens = some [] := by
  constructor
  · intro balanced
    have read := balanced.shiftAll_append [] []
    rwa [List.append_nil] at read
  · exact closing_of_shiftAll

/-! ## The end of a call -/

/-- Brackets match among strictly balanced tokens: the marks of a substitution are none. -/
theorem Balanced.nested {tokens : List Token} (balanced : Balanced true tokens)
    (proper : ∀ t ∈ tokens, t.IsProper) : Nested true tokens := by
  induction balanced with
  | nil => exact .nil
  | plain t opens closes later ih =>
    obtain ⟨own, proper⟩ := List.forall_mem_cons.1 proper
    obtain ⟨notOpens, notCloses⟩ := own.plain opens closes
    exact .plain t notOpens notCloses (Or.inl rfl) (ih proper)
  | @around inside tokens opener close closes matching kinds within later ihWithin ih =>
    have properInside : ∀ t ∈ inside, t.IsProper := fun t member => proper t (by simp [member])
    have properLater : ∀ t ∈ tokens, t.IsProper := fun t member => proper t (by simp [member])
    rcases Token.awaits_cases matching (kinds rfl) with ⟨mark, mark'⟩ | ⟨opening, closing, partner⟩
    · obtain ⟨opens, opens', -⟩ := Token.not_bracket_of_mark mark
      obtain ⟨closes, closes', -⟩ := Token.not_bracket_of_mark mark'
      exact .plain opener opens opens' (Or.inl rfl) ((ihWithin properInside).append
        (.plain close closes closes' (Or.inl rfl) (ih properLater)))
    · exact .brackets opener close opening closing partner (ihWithin properInside) (ih properLater)

/-- The search for the end of a call passes over strictly balanced tokens. -/
theorem Balanced.takeClosed_append {tokens : List Token} (balanced : Balanced true tokens)
    (proper : ∀ t ∈ tokens, t.IsProper) (depth : Nat) (rest : List Token) :
    takeClosed depth (tokens ++ rest) =
      (takeClosed depth rest).map fun (inside, close) => (tokens ++ inside, close) :=
  (balanced.nested proper).takeClosed_append depth rest

/-- What a token opens among balanced tokens is closed behind balanced ones. -/
theorem Balanced.exists_closer {strict : Bool} {tokens before tail : List Token} {opener : Token}
    {closer : String} (balanced : Balanced strict tokens)
    (split : tokens = before ++ opener :: tail) (opens : opener.awaits = some closer) :
    ∃ inside close later, tail = inside ++ close :: later ∧ Balanced strict inside ∧
      close.ends = true ∧ close.text = closer ∧ (strict = true → close.kind = opener.kind) := by
  induction balanced generalizing before tail with
  | nil => simp at split
  | plain t awaits closes later ih =>
    cases before with
    | nil =>
      cases split
      rw [awaits] at opens
      cases opens
    | cons head before =>
      cases split
      exact ih rfl
  | around first close closes matching kinds within later ihWithin ih =>
    cases before with
    | nil =>
      cases split
      rw [matching] at opens
      exact ⟨_, close, _, rfl, within, closes, Option.some.inj opens, kinds⟩
    | cons head before =>
      have rest := (List.cons.inj split).2
      rcases List.append_eq_append_iff.1 rest with ⟨v, rfl, tail⟩ | ⟨v, rfl, tail⟩
      · cases v with
        | nil =>
          cases tail
          rw [Token.awaits_of_ends closes] at opens
          cases opens
        | cons head v =>
          cases tail
          exact ih rfl
      · cases v with
        | nil =>
          cases tail
          rw [Token.awaits_of_ends closes] at opens
          cases opens
        | cons head v =>
          cases tail
          obtain ⟨inside, close', later, rfl, found⟩ := ihWithin rfl
          exact ⟨inside, close', later ++ close :: _, List.append_assoc .., found⟩

end Folio.Script
