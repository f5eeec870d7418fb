import Folio.Proofs.Script.Cover
import Folio.Proofs.Script.Literal
import Folio.Script.Inject

/-!
# Scanning a script with literals in it

If literals come in place of some names and calls of a script, the lexer finds these literals and
all other tokens again (`Woven.scan`), provided that no operator of the script looks like the
beginning of a comment: a literal might close that comment.
-/

namespace Folio.Script

open Text

/-- The text of some tokens. -/
def spelling (tokens : List Token) : List Char :=
  tokens.flatMap (·.text.toList)

/-- No operator and no regular expression begins like a comment that is never closed. -/
def Sealed (tokens : List Token) : Prop :=
  ∀ t rest, t :: rest <:+ tokens → t.kind = .operator ∨ t.kind = .regex →
    ¬ ['/', '*'] <+: spelling (t :: rest)

theorem Sealed.of_suffix {tokens tokens' : List Token} (closed : Sealed tokens)
    (suffix : tokens' <:+ tokens) : Sealed tokens' :=
  fun t rest inside => closed t rest (inside.trans suffix)

theorem Covers.eq_spelling {offset : Nat} {tokens : List Token} {s : List Char}
    (covers : Covers offset tokens s) : s = spelling tokens := by
  induction covers with
  | nil => rfl
  | cons some later ih => rw [ih]; rfl

/-! ## Significant tokens -/

theorem kind_of_mem_significantFrom {broken : Bool} {tokens : List Token} {u : Token}
    (member : u ∈ significantFrom broken tokens) : ∃ t ∈ tokens, u.kind = t.kind := by
  induction tokens generalizing broken with
  | nil => cases member
  | cons t tokens ih =>
    rw [significantFrom] at member
    split at member
    · obtain ⟨v, inside, kind⟩ := ih member
      exact ⟨v, List.mem_cons_of_mem t inside, kind⟩
    · rcases List.mem_cons.1 member with rfl | member
      · exact ⟨t, List.mem_cons_self, rfl⟩
      · obtain ⟨v, inside, kind⟩ := ih member
        exact ⟨v, List.mem_cons_of_mem t inside, kind⟩

theorem significantFrom_append (broken : Bool) (inside : List Token) {close : Token}
    (some : close.kind.isTrivia = false) (tokens : List Token) :
    ∃ late, significantFrom broken (inside ++ close :: tokens) =
      significantFrom broken inside ++ { close with afterBreak := late } ::
        significantFrom false tokens := by
  induction inside generalizing broken with
  | nil =>
    exact ⟨broken, by simp [significantFrom, some]⟩
  | cons t inside ih =>
    rw [List.cons_append, significantFrom, significantFrom]
    split
    · exact ih _
    · obtain ⟨late, split⟩ := ih false
      exact ⟨late, by rw [split]; rfl⟩

/-! ## Single tokens -/

section Scan

variable {mode : Mode} {previous : Option Char} {offset : Nat} {s : List Char} {t : Token}
  {tokens : List Token}

theorem scanFrom_cons_eq_ok (scanned : scanFrom mode previous offset s = .ok (t :: tokens)) :
    ∃ c u w found, s = c :: (u ++ w) ∧ shape mode previous c (u ++ w) = some found ∧
      found.Takes u w ∧ t = ⟨found.kind, String.ofList (c :: u), offset, false⟩ ∧
      scanFrom found.mode (c :: u).getLast? (offset + (c :: u).length) w = .ok tokens := by
  cases s with
  | nil =>
    rw [scanFrom] at scanned
    cases scanned
  | cons c r =>
    rw [scanFrom] at scanned
    split at scanned
    · cases scanned
    · next found shaped =>
      dsimp only at scanned
      split at scanned
      · cases scanned
      · next rest later =>
        cases scanned
        refine ⟨c, r.take found.more, r.drop found.more, found, ?_, ?_, ?_, rfl, later⟩
        · rw [List.take_append_drop]
        · rw [List.take_append_drop, shaped]
        · by_cases le : found.more ≤ r.length
          · exact Or.inl (by rw [List.length_take_of_le le])
          · refine Or.inr ⟨List.length_take_le _ _, List.drop_eq_nil_of_le (by omega)⟩

theorem scanFrom_of_shape {c : Char} {u w : List Char} {found : Shape}
    (shaped : shape mode previous c (u ++ w) = some found) (takes : found.Takes u w)
    (later : scanFrom found.mode (c :: u).getLast? (offset + (c :: u).length) w = .ok tokens) :
    scanFrom mode previous offset (c :: (u ++ w)) =
      .ok (⟨found.kind, String.ofList (c :: u), offset, false⟩ :: tokens) := by
  have cut : (u ++ w).take found.more = u ∧ (u ++ w).drop found.more = w := by
    rcases takes with exact' | ⟨le, rfl⟩
    · rw [exact', List.take_left, List.drop_left]
      exact ⟨rfl, rfl⟩
    · rw [List.append_nil, List.take_of_length_le le, List.drop_eq_nil_of_le le]
      exact ⟨rfl, rfl⟩
  rw [scanFrom, shaped]
  dsimp only
  rw [cut.1, cut.2, later]

/-- A quoted text is scanned to one token. -/
theorem scanFrom_quote (code : mode.InCode) (text : String) {w : List Char}
    (later : scanFrom ⟨mode.nesting, false⟩ (some '"') (offset + (quote text).length) w =
      .ok tokens) :
    scanFrom mode previous offset ((quote text).toList ++ w) =
      .ok (⟨.doubleQuoted, quote text, offset, false⟩ :: tokens) := by
  rw [quote_eq, String.toList_ofList]
  refine scanFrom_of_shape (shape_quote code previous text w) (Or.inl rfl) ?_
  have last : ('"' :: quoteTail text).getLast? = some '"' := by
    rw [quoteTail, ← List.cons_append, List.getLast?_concat]
  rw [quote_eq, String.length_ofList] at later
  rw [last]
  exact later

/-- A colon and a quoted text behind a key. -/
theorem scanFrom_label (code : mode.InCode) (text : String) {w : List Char}
    (later : scanFrom ⟨mode.nesting, false⟩ (some '"') (offset + 2 + (quote text).length) w =
      .ok tokens) :
    scanFrom mode previous offset (':' :: ' ' :: ((quote text).toList ++ w)) =
      .ok (⟨.operator, ":", offset, false⟩ :: ⟨.blank, " ", offset + 1, false⟩ ::
        ⟨.doubleQuoted, quote text, offset + 2, false⟩ :: tokens) := by
  have code' : Mode.InCode ⟨mode.nesting, true⟩ := code
  have quoted : scanFrom ⟨mode.nesting, true⟩ (some ' ') (offset + 2) ((quote text).toList ++ w) =
      .ok (⟨.doubleQuoted, quote text, offset + 2, false⟩ :: tokens) :=
    scanFrom_quote code' text later
  have blank := shape_space code ':' (quoteTail text ++ w)
  rw [quote_eq, String.toList_ofList] at quoted ⊢
  exact scanFrom_of_shape (u := []) (shape_colon code previous _) (Or.inl rfl)
    (scanFrom_of_shape (u := []) blank (Or.inl rfl) quoted)

end Scan

/-! ## Literals in place -/

/-- Some tokens, of which `broken` says whether a line break was before them, and a text with quoted
literals in place of the references that are `Gone` and of some calls among them. `Site` holds of the
significant tokens outside the calls and of their names, with those that follow and the number of
these that the call takes. -/
inductive Woven (Site : Token → List Token → Nat → Prop) (Gone : Reference → Prop) :
    Bool → List Token → List Char → Prop
  | done (broken : Bool) : Woven Site Gone broken [] []
  | trivia {broken : Bool} {tokens : List Token} {out : List Char} (t : Token)
      (trivial : t.kind.isTrivia = true)
      (later : Woven Site Gone (broken || t.text.toList.contains '\n') tokens out) :
      Woven Site Gone broken (t :: tokens) (t.text.toList ++ out)
  | kept {broken : Bool} {tokens : List Token} {out : List Char} (t : Token)
      (some : t.kind.isTrivia = false)
      (stays : ∀ shorthand, ¬ Gone ⟨t.text, t.start, shorthand⟩)
      (site : Site { t with afterBreak := broken } (significant tokens) 0)
      (later : Woven Site Gone false tokens out) :
      Woven Site Gone broken (t :: tokens) (t.text.toList ++ out)
  | literal {broken : Bool} {tokens : List Token} {out : List Char} (t : Token) (text : String)
      (plain : t.kind = .plainName) (simple : isSimpleName t.text = true)
      (uncalled : t.text ∈ helperNames → textIs "(" (significant tokens).head? = false)
      (gone : Gone ⟨t.text, t.start, false⟩)
      (site : Site { t with afterBreak := broken } (significant tokens) 0)
      (later : Woven Site Gone false tokens out) :
      Woven Site Gone broken (t :: tokens) ((quote text).toList ++ out)
  | labelled {broken : Bool} {tokens : List Token} {out : List Char} (t : Token) (text : String)
      (plain : t.kind = .plainName) (simple : isSimpleName t.text = true)
      (follows : textIn [",", "\x7d"] (significant tokens).head? = true)
      (uncalled : t.text ∈ helperNames → textIs "(" (significant tokens).head? = false)
      (gone : Gone ⟨t.text, t.start, true⟩)
      (site : Site { t with afterBreak := broken } (significant tokens) 0)
      (later : Woven Site Gone false tokens out) :
      Woven Site Gone broken (t :: tokens)
        (t.text.toList ++ ':' :: ' ' :: ((quote text).toList ++ out))
  | call {broken : Bool} {tokens inside : List Token} {out : List Char} (t close : Token)
      (text : String) (plain : t.kind = .plainName) (simple : isSimpleName t.text = true)
      (kinds : ∀ u ∈ inside, u.kind ≠ .substitution ∧ u.kind ≠ .plainName)
      (some : close.kind.isTrivia = false) (closes : close.closes = true)
      (site : Site { t with afterBreak := broken } (significant (inside ++ close :: tokens))
        ((significant inside).length + 1))
      (later : Woven Site Gone false tokens out) :
      Woven Site Gone broken (t :: (inside ++ close :: tokens)) ((quote text).toList ++ out)

/-- A token that is a quoted text. -/
def Token.IsQuote (t : Token) : Prop :=
  t.kind = .doubleQuoted ∧ ∃ text, t.text = quote text

/-- A token that says the same as another. -/
structure Token.Restates (t' t : Token) : Prop where
  kind : t'.kind = t.kind
  text : t'.text = t.text
  afterBreak : t'.afterBreak = t.afterBreak

/-- Whether the next token begins where one ends. -/
def touches (t : Token) (rest : List Token) : Bool :=
  rest.head?.any (·.start == t.stop)

/-- Some significant tokens and others with literals in place of the references that are `Gone` and of
calls among them. -/
inductive Rewritten (Site : Token → List Token → Nat → Prop) (Gone : Reference → Prop) :
    List Token → List Token → Prop
  | done : Rewritten Site Gone [] []
  | kept {tokens tokens' : List Token} (t t' : Token) (again : t'.Restates t)
      (near : touches t' tokens' = touches t tokens)
      (stays : ∀ shorthand, ¬ Gone ⟨t.text, t.start, shorthand⟩) (site : Site t tokens 0)
      (later : Rewritten Site Gone tokens tokens') :
      Rewritten Site Gone (t :: tokens) (t' :: tokens')
  | literal {tokens tokens' : List Token} (t t' : Token) (plain : t.kind = .plainName)
      (simple : isSimpleName t.text = true)
      (uncalled : t.text ∈ helperNames → textIs "(" tokens.head? = false) (quoted : t'.IsQuote)
      (broken : t'.afterBreak = t.afterBreak) (gone : Gone ⟨t.text, t.start, false⟩)
      (site : Site t tokens 0) (later : Rewritten Site Gone tokens tokens') :
      Rewritten Site Gone (t :: tokens) (t' :: tokens')
  | labelled {tokens tokens' : List Token} (t t' colon t'' : Token) (plain : t.kind = .plainName)
      (again : t'.Restates t) (uncalled : t.text ∈ helperNames → textIs "(" tokens.head? = false)
      (mark : colon.text = ":") (other : colon.kind = .operator) (quoted : t''.IsQuote)
      (unbroken : colon.afterBreak = false ∧ t''.afterBreak = false)
      (gone : Gone ⟨t.text, t.start, true⟩) (site : Site t tokens 0)
      (later : Rewritten Site Gone tokens tokens') :
      Rewritten Site Gone (t :: tokens) (t' :: colon :: t'' :: tokens')
  | call {tokens tokens' inside : List Token} (t close t' : Token) (plain : t.kind = .plainName)
      (simple : isSimpleName t.text = true) (kinds : ∀ u ∈ inside, u.kind ≠ .plainName)
      (closes : close.closes = true) (quoted : t'.IsQuote) (broken : t'.afterBreak = t.afterBreak)
      (site : Site t (inside ++ close :: tokens) (inside.length + 1))
      (later : Rewritten Site Gone tokens tokens') :
      Rewritten Site Gone (t :: (inside ++ close :: tokens)) (t' :: tokens')

/-- Whether some tokens begin with a significant one. -/
def beginsAtOnce (tokens : List Token) : Bool :=
  tokens.head?.any (!·.kind.isTrivia)

theorem Covers.touches_eq {t : Token} {tokens : List Token} {s : List Char}
    (covers : Covers t.stop tokens s) (broken : Bool) :
    touches t (significantFrom broken tokens) = beginsAtOnce tokens := by
  generalize stop : t.stop = offset at covers
  cases covers with
  | nil => rfl
  | @cons u tokens rest some later =>
    cases trivial : u.kind.isTrivia with
    | true =>
      have after : u.start < u.stop := by
        have positive : 0 < u.text.length := by
          rw [← String.length_toList]
          exact List.length_pos_iff.2 fun none => some (String.toList_eq_nil_iff.1 none)
        exact Nat.lt_add_of_pos_right positive
      rw [significantFrom, if_pos trivial]
      have ascending := later.significant_ascending (broken || u.text.toList.contains '\n')
      simp only [beginsAtOnce, List.head?_cons, Option.any_some, trivial, Bool.not_true]
      unfold touches
      cases next : significantFrom (broken || u.text.toList.contains '\n') tokens with
      | nil => rfl
      | cons v more =>
        rw [next] at ascending
        have start : u.stop ≤ v.start := ascending.1
        simp only [List.head?_cons, Option.any_some, beq_eq_false_iff_ne]
        omega
    | false =>
      rw [significantFrom, if_neg (by simp [trivial])]
      simp [touches, beginsAtOnce, trivial, stop]

section Woven

variable {Site : Token → List Token → Nat → Prop} {Gone : Reference → Prop} {broken : Bool}
  {tokens : List Token} {out s : List Char} {mode : Mode} {previous : Option Char} {offset : Nat}

theorem simple_cons {text : String} (simple : isSimpleName text = true) :
    ∃ c u, text.toList = c :: u ∧ continuesName c = true ∧ ∀ d ∈ c :: u, inName d = true := by
  cases spelled : text.toList with
  | nil => simp [isSimpleName, spelled] at simple
  | cons c u =>
    have same : text = String.ofList (c :: u) := by rw [← spelled, String.ofList_toList]
    obtain ⟨first, others⟩ := isSimpleName_ofList_iff.1 (same ▸ simple)
    have continues {d : Char} (letter : (isAsciiLetter d || d == '_' || d == '$') = true) :
        continuesName d = true := by
      simp only [continuesName, ascii_of_letter letter, if_true]
      simp only [Bool.or_eq_true] at letter ⊢
      rcases letter with (letter | score) | dollar
      · exact Or.inl (Or.inl (Or.inl letter))
      · exact Or.inl (Or.inr score)
      · exact Or.inr dollar
    refine ⟨c, u, rfl, continues first, List.forall_mem_cons.2
      ⟨inName_of_continuesName (continues first), fun d member => ?_⟩⟩
    have letter := others d member
    rw [Bool.or_eq_true] at letter
    rcases letter with word | dollar
    · simp [inName, word]
    · exact inName_of_continuesName (continues (by simp [dollar]))

/-- The text with literals is alike up to the first of them. -/
theorem Woven.forks (woven : Woven Site Gone broken tokens out) :
    Forks (spelling tokens) out := by
  have quoted (t : Token) (rest : List Token) (text : String) (out : List Char)
      (simple : isSimpleName t.text = true) :
      Forks (spelling (t :: rest)) ((quote text).toList ++ out) := by
    obtain ⟨c, u, spelled, continues, -⟩ := simple_cons simple
    rw [spelling, List.flatMap_cons, spelled, quote_eq, String.toList_ofList]
    exact .quoted continues _ _
  induction woven with
  | done => exact .done
  | trivia t trivial later ih => exact ih.append t.text.toList
  | kept t some stays site later ih => exact ih.append t.text.toList
  | literal t text plain simple uncalled gone site later ih => exact quoted t _ text _ simple
  | labelled t text plain simple follows uncalled gone site later ih =>
    obtain ⟨c, u, spelled, -, named⟩ := simple_cons simple
    have split := List.dropLast_concat_getLast (List.cons_ne_nil c u)
    rw [spelling, List.flatMap_cons, spelled, ← split, List.append_assoc, List.append_assoc]
    exact (Forks.labelled (named _ (List.getLast_mem _)) _ _).append _
  | call t close text plain simple kinds some closes site later ih => exact quoted t _ text _ simple

theorem scanFrom_nil_eq_ok (scanned : scanFrom mode previous offset s = .ok []) : s = [] := by
  cases s with
  | nil => rfl
  | cons c r =>
    rw [scanFrom] at scanned
    split at scanned
    · cases scanned
    · dsimp only at scanned
      split at scanned <;> cases scanned

/-- In a template no literal comes in place of the next token. -/
theorem Woven.head?_eq (woven : Woven Site Gone broken tokens out)
    (scanned : scanFrom mode previous offset s = .ok tokens)
    (template : mode.nesting.head? = some .template) : out.head? = s.head? := by
  have named {t : Token} {tokens : List Token}
      (scanned : scanFrom mode previous offset s = .ok (t :: tokens))
      (plain : t.kind = .plainName) : False := by
    obtain ⟨c, u, w, found, -, shaped, -, rfl, -⟩ := scanFrom_cons_eq_ok scanned
    exact (shape_name shaped plain).1 template
  have same {t : Token} {tokens : List Token} {out : List Char}
      (scanned : scanFrom mode previous offset s = .ok (t :: tokens)) :
      (t.text.toList ++ out).head? = s.head? := by
    obtain ⟨c, u, w, found, rfl, -, -, rfl, -⟩ := scanFrom_cons_eq_ok scanned
    rw [String.toList_ofList]
    rfl
  cases woven with
  | done => rw [scanFrom_nil_eq_ok scanned]
  | trivia t trivial later => exact same scanned
  | kept t some stays site later => exact same scanned
  | literal t text plain simple uncalled gone site later => exact (named scanned plain).elim
  | labelled t text plain simple follows uncalled gone site later => exact (named scanned plain).elim
  | call t close text plain simple kinds some closes site later => exact (named scanned plain).elim

/-- A token that stays is found again, and the lexer goes on as it did. -/
theorem scanFrom_kept {mode' : Mode} {previous' : Option Char} {t : Token}
    (scanned : scanFrom mode previous offset s = .ok (t :: tokens))
    (follows : Follows mode previous mode' previous' s) (closed : Sealed (t :: tokens))
    (woven : Woven Site Gone broken tokens out) (offset' : Nat) :
    ∃ next last after w, scanFrom next last after w = .ok tokens ∧ ∀ tokens',
      scanFrom next last (offset' + t.text.length) out = .ok tokens' →
        scanFrom mode' previous' offset' (t.text.toList ++ out) =
          .ok ({ t with start := offset' } :: tokens') := by
  have whole := (scanFrom_covers scanned).eq_spelling
  obtain ⟨c, u, w, found, rfl, shaped, takes, rfl, scannedRest⟩ := scanFrom_cons_eq_ok scanned
  have shaped' := (follows.shape c (u ++ w) rfl).trans shaped
  have forks : Forks w out := (scanFrom_covers scannedRest).eq_spelling.symm ▸ woven.forks
  refine ⟨_, _, _, _, scannedRest, fun tokens' later => ?_⟩
  rw [String.length_ofList] at later
  rw [String.toList_ofList, List.cons_append]
  rcases takes with more | ⟨le, rfl⟩
  · refine scanFrom_of_shape (shape_append forks shaped' more (woven.head?_eq scannedRest) ?_)
      (Or.inl more) later
    rintro rfl star
    have opens : ['/', '*'] <+: '/' :: (u ++ w) := by
      cases rest : u ++ w with
      | nil => simp [rest] at star
      | cons d v =>
        rw [rest] at star
        cases star
        exact ⟨v, rfl⟩
    rw [whole] at opens
    have unopened := closed _ _ (List.suffix_refl _)
    exact ⟨fun operator => unopened (Or.inl operator) opens,
      fun regex => unopened (Or.inr regex) opens⟩
  · cases forks
    exact scanFrom_of_shape shaped' (Or.inr ⟨le, rfl⟩) later

/-- What follows the bracket that closes a call. -/
theorem scanFrom_closer {inside : List Token} {close : Token} {around : Mode}
    (code : around.InCode)
    (nesting : mode.nesting = around.nesting ∨ mode.nesting = .template :: around.nesting)
    (scanned : scanFrom mode previous offset s = .ok (inside ++ close :: tokens))
    (kinds : ∀ u ∈ inside, u.kind ≠ .substitution) (closes : close.closes = true) :
    ∃ next last after w, scanFrom next last after w = .ok tokens ∧
      Follows next last ⟨around.nesting, false⟩ (some '"') w := by
  induction inside generalizing mode previous offset s with
  | nil =>
    obtain ⟨c, u, w, found, rfl, shaped, -, rfl, rest⟩ := scanFrom_cons_eq_ok scanned
    have outside : found.kind.isString = false := by
      simpa using (Bool.and_eq_true_iff.1 closes).1
    have inCode : mode.nesting = around.nesting := by
      refine nesting.resolve_right fun template => ?_
      unfold shape at shaped
      rw [template] at shaped
      rcases templateShape_kind shaped with ⟨kind, -⟩ | ⟨kind, -⟩ <;> rw [kind] at outside <;>
        cases outside
    refine ⟨_, _, _, _, rest, ?_⟩
    rw [← inCode]
    refine follows_closer (by rwa [Mode.InCode, inCode]) shaped (Bool.and_eq_true_iff.1 closes).2 ?_
    intro kind
    rw [kind] at outside
    cases outside
  | cons t inside ih =>
    obtain ⟨c, u, w, found, rfl, shaped, -, rfl, rest⟩ := scanFrom_cons_eq_ok scanned
    obtain ⟨kind, kinds⟩ := List.forall_mem_cons.1 kinds
    refine ih ?_ rest kinds
    rcases nesting with nesting | nesting
    · rcases shape_of_inCode (by rwa [Mode.InCode, nesting]) shaped with ⟨rfl, -⟩ | shaped
      · exact absurd rfl kind
      · rw [← nesting]
        rcases codeShape_cases shaped with ⟨-, same⟩ | letter
        · exact Or.inl same
        · rcases (letterShape_nesting letter).2 with same | ⟨-, deeper⟩
          · exact Or.inl same
          · exact Or.inr deeper
    · unfold shape at shaped
      rw [nesting] at shaped
      rcases templateShape_kind shaped with ⟨-, same⟩ | ⟨substitution, -⟩
      · exact same
      · exact absurd substitution kind

/-- Before a comma or a closing brace stands no opening bracket. -/
theorem head?_ne_of_textIn (code : mode.InCode)
    (scanned : scanFrom mode previous offset s = .ok tokens)
    (follows : textIn [",", "\x7d"] (significant tokens).head? = true) : s.head? ≠ some '(' := by
  intro opens
  cases s with
  | nil => cases opens
  | cons c r =>
    cases Option.some.inj opens
    cases tokens with
    | nil => cases follows
    | cons t tokens =>
      obtain ⟨c, u, w, found, same, shaped, takes, rfl, -⟩ := scanFrom_cons_eq_ok scanned
      obtain ⟨rfl, rfl⟩ := List.cons.inj same
      rw [shape_eq_codeShape code (by decide), codeShape_opener] at shaped
      cases shaped
      have empty : u = [] := by
        rcases takes with more | ⟨le, -⟩
        · exact List.length_eq_zero_iff.1 more.symm
        · exact List.length_eq_zero_iff.1 (Nat.le_zero.1 le)
      subst empty
      simp [significant, significantFrom, Kind.isTrivia, textIn] at follows

/-- A simple name is found again before a colon. -/
theorem scanFrom_name {mode' : Mode} {previous' : Option Char} {t : Token}
    (scanned : scanFrom mode previous offset s = .ok (t :: tokens))
    (follows : Follows mode previous mode' previous' s) (plain : t.kind = .plainName)
    (simple : isSimpleName t.text = true) :
    mode'.InCode ∧ ∃ next last after w, scanFrom next last after w = .ok tokens ∧
      Follows next last ⟨mode'.nesting, false⟩ (some '"') w ∧
      (textIn [",", "\x7d"] (significant tokens).head? = true → ∀ out offset' tokens',
        (∀ last, scanFrom ⟨mode'.nesting, false⟩ last (offset' + t.text.length) (':' :: out) =
          .ok tokens') →
        scanFrom mode' previous' offset' (t.text.toList ++ ':' :: out) =
          .ok ({ t with start := offset' } :: tokens')) := by
  obtain ⟨c, u, w, found, rfl, shaped, takes, rfl, rest⟩ := scanFrom_cons_eq_ok scanned
  have shaped' := (follows.shape c (u ++ w) rfl).trans shaped
  obtain ⟨code, after⟩ := follows_name shaped' plain takes simple
  refine ⟨code, _, _, _, w, rest, after, fun ends out offset' tokens' later => ?_⟩
  have code' : found.mode.InCode := by
    rw [Mode.InCode, ← after.nesting]
    exact code
  have more : found.more = u.length := by
    rcases takes with more | ⟨-, rfl⟩
    · exact more
    · rw [scanFrom] at rest
      cases rest
      cases ends
  have next (d : Char) (head : w.head? = some d) (word : isWord d = true) :
      continuesName d = true := by
    by_contra ends
    cases w with
    | nil => cases head
    | cons e w =>
      cases Option.some.inj head
      rw [scanFrom, shape_eq_none code' word (Bool.eq_false_iff.2 ends)] at rest
      cases rest
  have again := shape_label shaped' plain more simple next (head?_ne_of_textIn code' rest ends) out
  rw [String.length_ofList] at later
  rw [String.toList_ofList, List.cons_append]
  have kind : found.kind = .plainName := plain
  rw [kind]
  exact scanFrom_of_shape again (Or.inl rfl) (later _)

/-- The tokens of a script with literals in place of some names and calls. -/
theorem Woven.scan {mode' : Mode} {previous' : Option Char}
    (woven : Woven Site Gone broken tokens out)
    (scanned : scanFrom mode previous offset s = .ok tokens)
    (follows : Follows mode previous mode' previous' s) (closed : Sealed tokens) (offset' : Nat) :
    ∃ tokens', scanFrom mode' previous' offset' out = .ok tokens' ∧
      beginsAtOnce tokens' = beginsAtOnce tokens ∧
      Rewritten Site Gone (significantFrom broken tokens) (significantFrom broken tokens') := by
  induction woven generalizing mode previous offset s mode' previous' offset' with
  | done =>
    refine ⟨[], ?_, rfl, .done⟩
    rw [scanFrom]
  | trivia t trivial later ih =>
    obtain ⟨next, last, after, w, rest, back⟩ :=
      scanFrom_kept scanned follows closed later offset'
    obtain ⟨tokens', scanned', -, rewritten⟩ :=
      ih rest (.refl next last w) (closed.of_suffix (List.suffix_cons t _))
        (offset' + t.text.length)
    refine ⟨_, back tokens' scanned', rfl, ?_⟩
    rw [significantFrom, significantFrom, if_pos trivial, if_pos trivial]
    exact rewritten
  | @kept broken tokens out t some stays site later ih =>
    obtain ⟨next, last, after, w, rest, back⟩ :=
      scanFrom_kept scanned follows closed later offset'
    obtain ⟨tokens', scanned', begins, rewritten⟩ :=
      ih rest (.refl next last w) (closed.of_suffix (List.suffix_cons t _))
        (offset' + t.text.length)
    refine ⟨_, back tokens' scanned', rfl, ?_⟩
    rw [significantFrom, significantFrom, if_neg (by simp [some]), if_neg (by simp [some])]
    refine .kept _ _ ⟨rfl, rfl, rfl⟩ ?_ stays site rewritten
    have near : touches { t with afterBreak := broken } (significantFrom false tokens) =
        beginsAtOnce tokens := by
      cases scanFrom_covers scanned with
      | cons some covers => exact Covers.touches_eq covers false
    exact (Covers.touches_eq (scanFrom_covers scanned') false).trans (begins.trans near.symm)
  | literal t text plain simple uncalled gone site later ih =>
    obtain ⟨code, next, last, after, w, rest, follows', -⟩ :=
      scanFrom_name scanned follows plain simple
    obtain ⟨tokens', scanned', -, rewritten⟩ :=
      ih rest follows' (closed.of_suffix (List.suffix_cons t _)) (offset' + (quote text).length)
    refine ⟨_, scanFrom_quote code text scanned', by simp [beginsAtOnce, plain, Kind.isTrivia], ?_⟩
    rw [significantFrom, significantFrom, if_neg (by simp [plain, Kind.isTrivia]),
      if_neg (by simp [Kind.isTrivia])]
    exact .literal _ _ plain simple uncalled ⟨rfl, text, rfl⟩ rfl gone site rewritten
  | labelled t text plain simple ends uncalled gone site later ih =>
    obtain ⟨code, next, last, after, w, rest, follows', back⟩ :=
      scanFrom_name scanned follows plain simple
    obtain ⟨tokens', scanned', -, rewritten⟩ :=
      ih rest follows' (closed.of_suffix (List.suffix_cons t _))
        (offset' + t.text.length + 2 + (quote text).length)
    have code' : Mode.InCode ⟨mode'.nesting, false⟩ := code
    refine ⟨_, back ends _ _ _ fun last => scanFrom_label code' text scanned', rfl, ?_⟩
    have trivial : ¬t.kind.isTrivia = true := by simp [plain, Kind.isTrivia]
    rw [significantFrom, significantFrom, if_neg trivial, if_neg trivial]
    exact .labelled _ _ _ _ plain ⟨rfl, rfl, rfl⟩ uncalled rfl rfl ⟨rfl, text, rfl⟩
      ⟨rfl, by simp⟩ gone site rewritten
  | @call broken tokens inside out t close text plain simple kinds some closes site later ih =>
    obtain ⟨code, next, last, after, w, rest, follows', -⟩ :=
      scanFrom_name scanned follows plain simple
    have within : next.InCode := by
      rw [Mode.InCode, ← follows'.nesting]
      exact code
    obtain ⟨next', last', after', w', rest', follows''⟩ :=
      scanFrom_closer within (Or.inl rfl) rest (fun u member => (kinds u member).1) closes
    have suffix : tokens <:+ t :: (inside ++ close :: tokens) :=
      ((List.suffix_cons close _).trans (List.suffix_append _ _)).trans (List.suffix_cons t _)
    have same : mode'.nesting = next.nesting := follows'.nesting
    rw [← same] at follows''
    obtain ⟨tokens', scanned', -, rewritten⟩ := ih rest' follows''
      (closed.of_suffix suffix) (offset' + (quote text).length)
    refine ⟨_, scanFrom_quote code text scanned', by simp [beginsAtOnce, plain, Kind.isTrivia], ?_⟩
    obtain ⟨late, split⟩ := significantFrom_append false inside some tokens
    rw [significantFrom, significantFrom, if_neg (by simp [plain, Kind.isTrivia]),
      if_neg (by simp [Kind.isTrivia]), split]
    rw [significant, split] at site
    refine .call _ _ _ plain simple (fun u member => ?_) closes ⟨rfl, text, rfl⟩ rfl site rewritten
    obtain ⟨v, inside, kind⟩ := kind_of_mem_significantFrom member
    rw [kind]
    exact (kinds v inside).2

end Woven

end Folio.Script
