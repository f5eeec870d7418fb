import Folio.Proofs.Script.Lookahead
import Folio.Script.Node
import Folio.Script.Tree

/-!
# A literal in place of a name

After a simple name, and after the closing bracket of a call, the lexer goes on as it does after a
quoted literal in their place (`follows_name`, `follows_closer`).
-/

namespace Folio.Script

open Text

/-- Whether code stands at a position and no text of a template. -/
def Mode.InCode (mode : Mode) : Prop :=
  mode.nesting.head? ≠ some .template

/-- Two positions before the same text at which the lexer finds the same. -/
structure Follows (mode : Mode) (previous : Option Char) (mode' : Mode) (previous' : Option Char)
    (w : List Char) : Prop where
  nesting : mode'.nesting = mode.nesting
  shape : ∀ c r, w = c :: r → shape mode' previous' c r = shape mode previous c r

theorem Follows.refl (mode : Mode) (previous : Option Char) (w : List Char) :
    Follows mode previous mode previous w :=
  ⟨rfl, fun _ _ _ => rfl⟩

/-- A shape takes a text, or all that is left. -/
def Shape.Takes (found : Shape) (u w : List Char) : Prop :=
  found.more = u.length ∨ u.length ≤ found.more ∧ w = []

section Shape

variable {mode : Mode} {previous : Option Char} {c : Char} {r : List Char} {s : Shape}

/-! ## Kinds and nesting -/

theorem shape_of_inCode (code : mode.InCode) (found : shape mode previous c r = some s) :
    s = ⟨.substitution, 0, ⟨mode.nesting.tail, false⟩⟩ ∧ c = '\x7d' ∨
      codeShape mode previous c r = some s := by
  unfold shape at found
  cases nesting : mode.nesting with
  | nil =>
    rw [nesting] at found
    exact Or.inr found
  | cons n outer =>
    rw [nesting] at found
    cases n with
    | template => exact absurd (congrArg List.head? nesting) code
    | substitution =>
      dsimp only at found
      split at found
      · next close =>
        cases found
        exact Or.inl ⟨rfl, close⟩
      · exact Or.inr found

theorem exists_of_not_inCode (template : ¬mode.InCode) :
    ∃ outer, mode.nesting = .template :: outer := by
  unfold Mode.InCode at template
  cases nesting : mode.nesting with
  | nil => simp [nesting] at template
  | cons n outer =>
    cases n with
    | template => exact ⟨outer, rfl⟩
    | substitution => simp [nesting] at template

theorem shape_eq_codeShape (code : mode.InCode) (close : c ≠ '\x7d') :
    shape mode previous c r = codeShape mode previous c r := by
  unfold shape
  cases nesting : mode.nesting with
  | nil => rfl
  | cons n outer =>
    cases n with
    | template => exact absurd (congrArg List.head? nesting) code
    | substitution =>
      dsimp only
      rw [if_neg close]

theorem templateShape_kind {outer : List Nesting} (found : templateShape outer c r = some s) :
    s.kind = .templateText ∧ (s.mode.nesting = outer ∨ s.mode.nesting = .template :: outer) ∨
      s.kind = .substitution ∧ c = '$' := by
  unfold templateShape at found
  dsimp only at found
  split at found
  · cases found
    exact Or.inl ⟨rfl, Or.inl rfl⟩
  · split at found
    · split at found
      · cases found
      · cases found
        exact Or.inl ⟨rfl, Or.inr rfl⟩
    · split at found
      · next dollar =>
        split at found
        · cases found
          exact Or.inr ⟨rfl, dollar⟩
        · cases found
          exact Or.inl ⟨rfl, Or.inr rfl⟩
      · cases found
        exact Or.inl ⟨rfl, Or.inr rfl⟩

theorem wordKind_ne {word : String} {k : Kind × Bool}
    (reserved : wordKind previous word = some k) :
    k.1 ≠ .plainName ∧ k.1 ≠ .templateText ∧ k.1 ≠ .substitution := by
  unfold wordKind at reserved
  split_ifs at reserved <;> cases reserved <;> decide

theorem punctuationShape_eq_some (found : punctuationShape mode c r = some s) :
    s.kind = .punctuation ∧ s.mode.nesting = mode.nesting := by
  unfold punctuationShape at found
  split_ifs at found <;> cases found <;> exact ⟨rfl, rfl⟩

theorem bracketShape_eq_some (found : bracketShape mode c = some s) :
    s.kind = .punctuation ∧ s.mode.nesting = mode.nesting := by
  unfold bracketShape at found
  split_ifs at found <;> cases found <;> exact ⟨rfl, rfl⟩

theorem wordShape_eq_some (found : wordShape mode previous c r = some s) :
    s.kind ≠ .plainName ∧ s.kind ≠ .templateText ∧ s.kind ≠ .substitution ∧
      s.mode.nesting = mode.nesting := by
  unfold wordShape at found
  split at found
  · obtain ⟨k, reserved, rfl⟩ := Option.map_eq_some_iff.1 found
    obtain ⟨name, template, substitution⟩ := wordKind_ne reserved
    exact ⟨name, template, substitution, rfl⟩
  · cases found

theorem literalShape_eq_some (found : literalShape mode c r = some s) :
    s.kind ≠ .plainName ∧ s.kind ≠ .substitution ∧ (s.mode.nesting = mode.nesting ∨
      s.kind = .templateText ∧ s.mode.nesting = .template :: mode.nesting) := by
  unfold literalShape at found
  split at found
  · obtain ⟨n, -, rfl⟩ := Option.map_eq_some_iff.1 found
    simp
  · split at found
    · obtain ⟨n, -, rfl⟩ := Option.map_eq_some_iff.1 found
      simp
    · split at found
      · cases found
        simp
      · split at found
        · split at found
          · split at found
            · cases found
              simp
            · cases found
          · cases found
        · cases found

theorem letterShape_name (found : letterShape mode previous c r = some s)
    (name : s.kind = .plainName) : wordShape mode previous c r = none ∧
      ((∃ n, bodyNameLength c r = some n ∧ s = ⟨.plainName, n, { mode with operand := true }⟩) ∨
        bodyNameLength c r = none ∧ ∃ n, nameLength c r = some n ∧ s = ⟨.plainName, n, mode⟩) := by
  unfold letterShape at found
  cases word : wordShape mode previous c r with
  | some s' =>
    rw [word] at found
    cases found
    exact absurd name (wordShape_eq_some word).1
  | none =>
    rw [word] at found
    dsimp only at found
    refine ⟨rfl, ?_⟩
    cases body : bodyNameLength c r with
    | some n =>
      rw [body] at found
      cases found
      exact Or.inl ⟨n, rfl, rfl⟩
    | none =>
      rw [body] at found
      dsimp only at found
      cases plain : nameLength c r with
      | some n =>
        rw [plain] at found
        cases found
        exact Or.inr ⟨rfl, n, rfl, rfl⟩
      | none =>
        rw [plain] at found
        exact absurd name (literalShape_eq_some found).1

theorem letterShape_nesting (found : letterShape mode previous c r = some s) :
    s.kind ≠ .substitution ∧ (s.mode.nesting = mode.nesting ∨
      s.kind = .templateText ∧ s.mode.nesting = .template :: mode.nesting) := by
  unfold letterShape at found
  split at found
  · next word =>
    cases found
    obtain ⟨-, -, substitution, nesting⟩ := wordShape_eq_some word
    exact ⟨substitution, Or.inl nesting⟩
  · split at found
    · cases found
      simp
    · split at found
      · cases found
        simp
      · exact (literalShape_eq_some found).2

/-- A kind of token that neither names anything nor belongs to a template. -/
def Kind.isMark : Kind → Bool
  | plainName | templateText | substitution => false
  | _ => true

theorem triviaShape_kind {k : Kind × Nat} (found : triviaShape c r = some k) :
    k.1.isTrivia = true := by
  unfold triviaShape at found
  split at found
  · cases found
    rfl
  · split at found
    · cases found
      rfl
    · split at found
      · split at found
        · cases found
          rfl
        · obtain ⟨n, -, rfl⟩ := Option.map_eq_some_iff.1 found
          rfl
        · cases found
      · cases found

theorem plainShape_cases (found : plainShape mode previous c r = some s) :
    s.kind.isMark = true ∧ s.mode.nesting = mode.nesting ∨
      letterShape mode previous c r = some s := by
  unfold plainShape at found
  split at found
  · cases found
    exact Or.inl ⟨rfl, rfl⟩
  · split at found
    · next punctuation =>
      cases found
      obtain ⟨kind, nesting⟩ := punctuationShape_eq_some punctuation
      exact Or.inl ⟨by rw [kind]; rfl, nesting⟩
    · split at found
      · cases found
        exact Or.inl ⟨rfl, rfl⟩
      · split at found
        · next bracket =>
          cases found
          obtain ⟨kind, nesting⟩ := bracketShape_eq_some bracket
          exact Or.inl ⟨by rw [kind]; rfl, nesting⟩
        · exact Or.inr found

theorem codeShape_cases (found : codeShape mode previous c r = some s) :
    s.kind.isMark = true ∧ s.mode.nesting = mode.nesting ∨
      letterShape { mode with operand := false } previous c r = some s := by
  unfold codeShape at found
  split at found
  · cases found
    exact Or.inl ⟨rfl, rfl⟩
  · dsimp only at found
    split at found
    · next kind n trivia =>
      cases found
      have trivial := triviaShape_kind trivia
      refine Or.inl ⟨?_, rfl⟩
      cases kind <;> first | rfl | cases trivial
    · split at found
      · obtain ⟨n, -, rfl⟩ := Option.map_eq_some_iff.1 found
        exact Or.inl ⟨rfl, rfl⟩
      · exact plainShape_cases found

/-- Names are found in code only. -/
theorem shape_name (found : shape mode previous c r = some s) (name : s.kind = .plainName) :
    mode.InCode ∧ letterShape ⟨mode.nesting, false⟩ previous c r = some s := by
  by_cases code : mode.InCode
  · refine ⟨code, ?_⟩
    rcases shape_of_inCode code found with ⟨rfl, -⟩ | found
    · cases name
    · rcases codeShape_cases found with ⟨mark, -⟩ | letter
      · rw [name] at mark
        cases mark
      · exact letter
  · obtain ⟨outer, nesting⟩ := exists_of_not_inCode code
    unfold shape at found
    rw [nesting] at found
    rcases templateShape_kind found with ⟨kind, -⟩ | ⟨kind, -⟩ <;> rw [name] at kind <;> cases kind

/-! ## Positions alike -/

theorem wordKind_eq_none (ends : continuesName c = false) :
    wordKind previous (String.ofList (c :: r)) = none := by
  refine Option.eq_none_iff_forall_ne_some.2 fun k reserved => ?_
  have continues := continuesName_of_wordKind reserved c (by simp)
  rw [ends] at continues
  cases continues

theorem wordShape_congr {p p' : Char} (word : isWord p' = isWord p ∨ continuesName c = false) :
    wordShape mode (some p') c r = wordShape mode (some p) c r := by
  unfold wordShape
  split
  · rcases word with word | ends
    · simp [wordKind, word]
    · rw [wordKind_eq_none ends, wordKind_eq_none ends]
  · rfl

theorem codeShape_congr {mode' : Mode} {p p' : Char} (nesting : mode'.nesting = mode.nesting)
    (line : p ≠ '\n') (line' : p' ≠ '\n') (operand : mode'.operand = mode.operand ∨ c = '(')
    (word : isWord p' = isWord p ∨ continuesName c = false) :
    codeShape mode' (some p') c r = codeShape mode (some p) c r := by
  have plain : plainShape { mode' with operand := false } (some p') c r =
      plainShape { mode with operand := false } (some p) c r := by
    unfold plainShape
    rw [nesting, wordShape_congr word]
  have inside (p : Char) (line : p ≠ '\n') : lineOpensOperand (some p) c r = false := by
    simp [lineOpensOperand, line]
  unfold codeShape
  rw [if_neg (by simp), if_neg (by simp), inside p line, inside p' line', plain]
  rcases operand with operand | rfl
  · rw [operand, nesting]
  · have trivia : triviaShape '(' r = none := by
      unfold triviaShape startsHtmlComment
      rw [if_neg (by decide), if_neg (by simp), if_neg (by decide)]
    rw [trivia]
    simp

theorem shape_congr {mode' : Mode} {p p' : Char} (nesting : mode'.nesting = mode.nesting)
    (line : p ≠ '\n') (line' : p' ≠ '\n') (operand : mode'.operand = mode.operand ∨ c = '(')
    (word : isWord p' = isWord p ∨ continuesName c = false) :
    shape mode' (some p') c r = shape mode (some p) c r := by
  unfold shape
  rw [nesting, codeShape_congr nesting line line' operand word]

end Shape

/-! ## First characters -/

section First

variable {mode : Mode} {previous : Option Char} {c : Char} {r : List Char}

theorem codeShape_eq_plainShape (hash : c ≠ '#') (trivia : triviaShape c r = none)
    (slash : c ≠ '/') :
    codeShape mode previous c r = plainShape { mode with operand := false } previous c r := by
  unfold codeShape
  rw [if_neg (by simp [hash]), trivia]
  simp [slash]

theorem triviaShape_eq_none_of_first (blank : isBlank c = false) (html : c ≠ '<')
    (slash : c ≠ '/') : triviaShape c r = none := by
  unfold triviaShape startsHtmlComment
  rw [if_neg (by simp [blank]), if_neg (by simp [html]), if_neg slash]

theorem firstPrefix_eq_none {texts : List String}
    (other : ∀ t ∈ texts, t ≠ "" ∧ t.toList.head? ≠ some c) :
    firstPrefix texts (c :: r) = none := by
  refine List.find?_eq_none.2 fun t member => ?_
  obtain ⟨some', head⟩ := other t member
  cases spelled : t.toList with
  | nil => exact absurd (String.toList_eq_nil_iff.1 spelled) some'
  | cons d tail =>
    rw [spelled] at head
    have other : d ≠ c := by simpa using head
    simp [other]

theorem numberLength_eq_none_of_first (digit : isAsciiDigit c = false) (point : c ≠ '.') :
    numberLength c r = none := by
  have zero : c ≠ '0' := by
    rintro rfl
    cases digit
  simp [numberLength, prefixedNumberLength, decimalLength, zero, digit, point]

/-- The characters that begin marks in code. -/
def marks : List Char :=
  "#.=\\\x7b\x7d()[];,+-~?:<>!*|&%^/".toList

/-- A character that begins trivia, a number or a mark. -/
def beginsOther (c : Char) : Bool :=
  isBlank c || isAsciiDigit c || marks.contains c

theorem codeShape_eq_letterShape (letter : beginsOther c = false) :
    codeShape mode previous c r = letterShape { mode with operand := false } previous c r := by
  unfold beginsOther at letter
  simp only [Bool.or_eq_false_iff] at letter
  obtain ⟨⟨blank, digit⟩, unmarked⟩ := letter
  have ne (d : Char) (marked : d ∈ marks) : c ≠ d := by
    rintro rfl
    rw [List.contains_iff_mem.2 marked] at unmarked
    cases unmarked
  have operator : operatorLength c r = none := by
    have other : ∀ t ∈ fixedOperators ++ assignableOperators, t ≠ "" ∧ t.toList.head? ≠ some c := by
      have listed : ∀ t ∈ fixedOperators ++ assignableOperators,
          t ≠ "" ∧ t.toList.head?.all marks.contains = true := by
        decide
      intro t member
      obtain ⟨some', marked⟩ := listed t member
      refine ⟨some', fun head => ?_⟩
      rw [head, Option.all_some, List.contains_iff_mem] at marked
      exact ne c marked rfl
    unfold operatorLength
    rw [firstPrefix_eq_none fun t member => other t (List.mem_append_left _ member),
      firstPrefix_eq_none fun t member => other t (List.mem_append_right _ member)]
    simp [ne '\\' (by decide)]
  have punctuation (mode : Mode) : punctuationShape mode c r = none := by
    simp [punctuationShape, ne '.' (by decide), ne '=' (by decide)]
  have bracket (mode : Mode) : bracketShape mode c = none := by
    simp [bracketShape, ne '\x7b' (by decide), ne '(' (by decide), ne '[' (by decide),
      ne ';' (by decide), ne ',' (by decide), ne '\x7d' (by decide), ne ')' (by decide),
      ne ']' (by decide), ne '.' (by decide)]
  rw [codeShape_eq_plainShape (ne '#' (by decide))
    (triviaShape_eq_none_of_first blank (ne '<' (by decide)) (ne '/' (by decide)))
    (ne '/' (by decide)), plainShape, numberLength_eq_none_of_first digit (ne '.' (by decide)),
    punctuation, operator, bracket]
  rfl

theorem ascii_of_letter (letter : (isAsciiLetter c || c == '_' || c == '$') = true) :
    c.toNat < 128 := by
  simp only [isAsciiLetter, Bool.or_eq_true, Bool.and_eq_true, decide_eq_true_eq,
    beq_iff_eq] at letter
  rcases letter with ((⟨-, le⟩ | ⟨-, le⟩) | rfl) | rfl
  · exact Nat.lt_of_le_of_lt (UInt32.le_iff_toNat_le.1 le) (by decide)
  · exact Nat.lt_of_le_of_lt (UInt32.le_iff_toNat_le.1 le) (by decide)
  · decide
  · decide

theorem beginsOther_of_letter (letter : (isAsciiLetter c || c == '_' || c == '$') = true) :
    beginsOther c = false := by
  have listed : ∀ n < 128, (isAsciiLetter (Char.ofNat n) || Char.ofNat n == '_' ||
      Char.ofNat n == '$') = true → beginsOther (Char.ofNat n) = false := by
    decide
  have same := listed c.toNat (ascii_of_letter letter)
  rw [Char.ofNat_toNat] at same
  exact same letter

theorem isWord_of_isBlank {c : Char} (blank : isBlank c = true) : isWord c = false := by
  have listed : ∀ n ∈ (List.range 0x100 ++ [0x1680] ++ (List.range 11).map (0x2000 + ·) ++
      [0x2028, 0x2029, 0x202F, 0x205F, 0x3000]),
      isBlank (Char.ofNat n) = true → isWord (Char.ofNat n) = false := by
    decide +kernel
  have member : c.toNat ∈ (List.range 0x100 ++ [0x1680] ++ (List.range 11).map (0x2000 + ·) ++
      [0x2028, 0x2029, 0x202F, 0x205F, 0x3000]) := by
    unfold isBlank at blank
    simp only [List.mem_append, List.mem_range, List.mem_map, List.mem_cons, List.not_mem_nil]
    simp only [Bool.or_eq_true, Bool.and_eq_true, beq_iff_eq, decide_eq_true_eq] at blank
    by_cases low : c.toNat < 0x100
    · simp [low]
    · by_cases spaces : 0x2000 ≤ c.toNat ∧ c.toNat ≤ 0x200A
      · exact Or.inl (Or.inr ⟨c.toNat - 0x2000, by omega, by omega⟩)
      · omega
  have same := listed c.toNat member
  rw [Char.ofNat_toNat] at same
  exact same blank

/-- No token begins with a word character that goes on no name. -/
theorem shape_eq_none (code : mode.InCode) (word : isWord c = true)
    (ends : continuesName c = false) : shape mode previous c r = none := by
  have ne (d : Char) (plain : isWord d = false) : c ≠ d := by
    rintro rfl
    rw [word] at plain
    cases plain
  have letter : beginsOther c = false := by
    unfold beginsOther
    simp only [Bool.or_eq_false_iff]
    refine ⟨⟨Bool.eq_false_iff.2 fun blank => ?_, Bool.eq_false_iff.2 fun digit => ?_⟩,
      Bool.eq_false_iff.2 fun mark => ?_⟩
    · rw [isWord_of_isBlank blank] at word
      cases word
    · have ascii : c.toNat < 128 := by
        simp only [isAsciiDigit, Bool.and_eq_true, decide_eq_true_eq] at digit
        exact Nat.lt_of_le_of_lt (UInt32.le_iff_toNat_le.1 digit.2) (by decide)
      simp [continuesName, ascii, digit] at ends
    · have apart : marks.all (!isWord ·) = true := by decide
      simpa [word] using List.all_eq_true.1 apart c (List.contains_iff_mem.1 mark)
  have first : (isAsciiLetter c || c == '_' || c == '$') = false := by
    refine Bool.eq_false_iff.2 fun first => ?_
    simp [continuesName, ascii_of_letter first] at ends
    simp [ends] at first
  have starts : startsName c = false := by
    refine Bool.eq_false_iff.2 fun starts => ?_
    rw [continuesName_of_startsName starts] at ends
    cases ends
  have unreserved (mode : Mode) : wordShape mode previous c r = none := by
    rw [wordShape, wordKind_eq_none ends]
    split <;> rfl
  rw [shape_eq_codeShape code (ne _ (by decide)), codeShape_eq_letterShape letter]
  simp [letterShape, unreserved, bodyNameLength, first, nameLength, starts,
    literalShape, ne '\\' (by decide), ne '"' (by decide +kernel),
    ne '\'' (by decide), ne '`' (by decide +kernel), ne '#' (by decide +kernel)]

theorem codeShape_opener : codeShape mode previous '(' r =
    some ⟨.punctuation, 0, ⟨mode.nesting, true⟩⟩ := by
  rw [codeShape_eq_plainShape (by decide)
    (triviaShape_eq_none_of_first (by decide) (by decide) (by decide)) (by decide)]
  rfl

theorem codeShape_closer (closer : c = ')' ∨ c = ']' ∨ c = '\x7d') :
    codeShape mode previous c r = some ⟨.punctuation, 0, ⟨mode.nesting, false⟩⟩ := by
  rcases closer with rfl | rfl | rfl
  · rw [codeShape_eq_plainShape (by decide)
      (triviaShape_eq_none_of_first (by decide) (by decide) (by decide)) (by decide)]
    rfl
  · rw [codeShape_eq_plainShape (by decide)
      (triviaShape_eq_none_of_first (by decide) (by decide) (by decide)) (by decide)]
    rfl
  · rw [codeShape_eq_plainShape (by decide)
      (triviaShape_eq_none_of_first (by decide) (by decide) (by decide)) (by decide)]
    rfl

end First

section Position

variable {mode : Mode} {previous : Option Char} {c : Char} {u w : List Char} {s : Shape}

theorem isSimpleName_ofList_iff : isSimpleName (String.ofList (c :: u)) = true ↔
    (isAsciiLetter c || c == '_' || c == '$') = true ∧
      ∀ d ∈ u, (isWord d || d == '$') = true := by
  simp only [isSimpleName, String.toList_ofList, Bool.and_eq_true, List.all_eq_true]

theorem ne_of_isSimpleName (simple : isSimpleName (String.ofList (c :: u)) = true) {d : Char}
    (member : d ∈ c :: u) : d ≠ '\n' ∧ d ≠ '\\' := by
  obtain ⟨first, others⟩ := isSimpleName_ofList_iff.1 simple
  rcases List.mem_cons.1 member with rfl | member
  · constructor <;> rintro rfl <;> exact absurd first (by decide)
  · have word := others d member
    constructor <;> rintro rfl <;> exact absurd word (by decide)

/-- After a simple name the lexer goes on as after a quote. -/
theorem follows_name (found : shape mode previous c (u ++ w) = some s) (name : s.kind = .plainName)
    (takes : s.Takes u w) (simple : isSimpleName (String.ofList (c :: u)) = true) :
    mode.InCode ∧ Follows s.mode (c :: u).getLast? ⟨mode.nesting, false⟩ (some '"') w := by
  obtain ⟨code, letter⟩ := shape_name found name
  refine ⟨code, ?_⟩
  rw [List.getLast?_eq_some_getLast (List.cons_ne_nil c u)]
  have line := (ne_of_isSimpleName simple (List.getLast_mem (List.cons_ne_nil c u))).1
  rcases (letterShape_name letter name).2 with ⟨n, body, rfl⟩ | ⟨-, n, plain, rfl⟩
  · refine ⟨rfl, fun d r begins => ?_⟩
    rcases takes with more | ⟨-, rfl⟩
    · cases more
      obtain ⟨-, path, rest, spelled, length, -⟩ := bodyNameLength_eq_some_iff.1 body
      obtain ⟨rfl, rfl⟩ := List.append_inj spelled length.symm
      cases begins
      exact shape_congr rfl line (by decide) (Or.inr rfl) (Or.inr (by decide))
    · cases begins
  · refine ⟨rfl, fun d r begins => ?_⟩
    rcases takes with more | ⟨-, rfl⟩
    · cases more
      have ends := nameLength_stops plain d (by rw [begins]; rfl)
      exact shape_congr rfl line (by decide) (Or.inl rfl) (Or.inr ends)
    · cases begins

theorem nameTailLength_append_of_plain (plain : ∀ d ∈ u, d ≠ '\\')
    (exact' : nameTailLength (u ++ w) = u.length) {w' : List Char} (ends : nameTailLength w' = 0) :
    nameTailLength (u ++ w') = u.length := by
  induction u with
  | nil => exact ends
  | cons d u ih =>
    obtain ⟨slash, plain⟩ := List.forall_mem_cons.1 plain
    have unescaped (v : List Char) : isEscape (d :: v) = false := by
      refine Bool.eq_false_iff.2 fun escape => slash ?_
      obtain ⟨a, b, c, e, rest, same, -⟩ := isEscape_eq_true_iff.1 escape
      exact (List.cons.inj same).1
    rw [List.cons_append, nameTailLength_cons (unescaped _)] at exact' ⊢
    split at exact'
    · next continues =>
      rw [if_pos continues, ih plain (Nat.succ.inj exact')]
      rfl
    · cases exact'

/-- A simple name that no bracket follows is found before a colon as well. -/
theorem shape_label (found : shape mode previous c (u ++ w) = some s) (name : s.kind = .plainName)
    (more : s.more = u.length) (simple : isSimpleName (String.ofList (c :: u)) = true)
    (next : ∀ d, w.head? = some d → isWord d = true → continuesName d = true)
    (bracket : w.head? ≠ some '(') (w' : List Char) :
    shape mode previous c (u ++ ':' :: w') = some ⟨.plainName, u.length, ⟨mode.nesting, false⟩⟩ := by
  obtain ⟨code, letter⟩ := shape_name found name
  obtain ⟨first, others⟩ := isSimpleName_ofList_iff.1 simple
  obtain ⟨unreserved, body | ⟨-, n, plain, rfl⟩⟩ := letterShape_name letter name
  · obtain ⟨n, body, rfl⟩ := body
    cases more
    obtain ⟨-, path, rest, spelled, length, -⟩ := bodyNameLength_eq_some_iff.1 body
    obtain ⟨rfl, rfl⟩ := List.append_inj spelled length.symm
    exact absurd rfl bracket
  · cases more
    have le : run isWord (u ++ w) ≤ u.length := by
      by_contra gt
      obtain ⟨-, d, v, rfl, wordy⟩ := exists_of_length_lt_run (Nat.lt_of_not_le gt)
      have ends := nameLength_stops plain d rfl
      rw [next d rfl wordy] at ends
      cases ends
    have colon : Stops isWord (':' :: w') := fun d head => by
      cases head
      decide
    have unreserved' : wordShape ⟨mode.nesting, false⟩ previous c (u ++ ':' :: w') = none := by
      rw [wordShape_eq (takeWhile_append_of_stops (fun _ => colon) le), unreserved]
    have body' : bodyNameLength c (u ++ ':' :: w') = none := by
      refine Option.eq_none_iff_forall_ne_some.2 fun n body => ?_
      obtain ⟨-, path, rest, spelled, -, members⟩ := bodyNameLength_eq_some_iff.1 body
      rcases List.append_eq_append_iff.1 spelled with ⟨v, rfl, tail⟩ | ⟨v, rfl, tail⟩
      · cases v with
        | nil => cases tail
        | cons d v =>
          cases tail
          exact absurd (members ':' (by simp)) (by decide)
      · cases v with
        | nil => cases tail
        | cons d v =>
          obtain rfl : '(' = d := (List.cons.inj tail).1
          exact absurd (others '(' (by simp)) (by decide)
    have name' : nameLength c (u ++ ':' :: w') = some u.length := by
      rw [nameLength_eq] at plain ⊢
      split at plain
      · next starts =>
        have slash : ∀ d ∈ u, d ≠ '\\' := fun d member =>
          (ne_of_isSimpleName simple (List.mem_cons_of_mem c member)).2
        have ends : nameTailLength (':' :: w') = 0 :=
          nameTailLength_eq_zero_iff.2 ⟨rfl, fun d head => by
            cases head
            decide⟩
        rw [if_pos starts,
          nameTailLength_append_of_plain slash (Option.some.inj plain) ends]
      · split at plain
        · next escape =>
          obtain ⟨a, b, d, e, rest, same, -⟩ := isEscape_eq_true_iff.1 escape
          exact absurd (List.cons.inj same).1
            (ne_of_isSimpleName simple (List.mem_cons_self)).2
        · cases plain
    have shaped : codeShape mode previous c (u ++ ':' :: w') =
        some ⟨.plainName, u.length, ⟨mode.nesting, false⟩⟩ := by
      rw [codeShape_eq_letterShape (beginsOther_of_letter first), letterShape, unreserved', body',
        name']
    have close : c ≠ '\x7d' := by
      rintro rfl
      exact absurd first (by decide)
    rw [shape_eq_codeShape code close, shaped]

/-- After a closing bracket outside templates the lexer goes on as after a quote. -/
theorem follows_closer (code : mode.InCode) (found : shape mode previous c (u ++ w) = some s)
    (closes : Token.isCloserText (String.ofList (c :: u)) = true)
    (kind : s.kind ≠ .substitution) :
    Follows s.mode (c :: u).getLast? ⟨mode.nesting, false⟩ (some '"') w := by
  have closer : (c = ')' ∨ c = ']' ∨ c = '\x7d') ∧ u = [] := by
    simp only [Token.isCloserText, Bool.or_eq_true, beq_iff_eq] at closes
    have spelled {text : String} (same : String.ofList (c :: u) = text) : c :: u = text.toList := by
      rw [← same, String.toList_ofList]
    rcases closes with (same | same) | same <;> have chars := spelled same <;> simp at chars <;>
      simp [chars]
  obtain ⟨closer, rfl⟩ := closer
  have mode' : s.mode = ⟨mode.nesting, false⟩ := by
    rcases shape_of_inCode code found with ⟨rfl, -⟩ | found
    · exact absurd rfl kind
    · rw [codeShape_closer closer] at found
      cases found
      rfl
  rw [mode']
  refine ⟨rfl, fun d r begins => ?_⟩
  rcases closer with rfl | rfl | rfl
  · exact shape_congr rfl (by decide) (by decide) (Or.inl rfl) (Or.inl (by decide))
  · exact shape_congr rfl (by decide) (by decide) (Or.inl rfl) (Or.inl (by decide))
  · exact shape_congr rfl (by decide) (by decide) (Or.inl rfl) (Or.inl (by decide))

end Position

/-! ## Quoted text -/

section Quoted

/-- A part of a quoted literal that neither closes it nor ends in half an escape. -/
inductive Inside : List Char → Prop
  | nil : Inside []
  | plain {c : Char} {s : List Char} (quote : c ≠ '"') (slash : c ≠ '\\') (later : Inside s) :
      Inside (c :: s)
  | escape (c : Char) {s : List Char} (later : Inside s) : Inside ('\\' :: c :: s)

theorem Inside.append {s t : List Char} (first : Inside s) (second : Inside t) :
    Inside (s ++ t) := by
  induction first with
  | nil => exact second
  | plain quote slash later ih => exact .plain quote slash ih
  | escape c later ih => exact .escape c ih

theorem Inside.of_forall {s : List Char} (plain : ∀ c ∈ s, c ≠ '"' ∧ c ≠ '\\') : Inside s := by
  induction s with
  | nil => exact .nil
  | cons c s ih =>
    obtain ⟨⟨quote, slash⟩, plain⟩ := List.forall_mem_cons.1 plain
    exact .plain quote slash (ih plain)

theorem Inside.quotedLength {s : List Char} (inside : Inside s) (w : List Char) :
    quotedLength '"' (s ++ '"' :: w) = some (s.length + 1) := by
  induction inside with
  | nil => rfl
  | plain quote slash later ih =>
    rw [List.cons_append, quotedLength_cons slash, if_neg quote, ih]
    rfl
  | escape c later ih =>
    rw [List.cons_append, List.cons_append, Folio.Script.quotedLength, ih]
    rfl

theorem hexDigits_plain (width n : Nat) : ∀ c ∈ hexDigits width n, c ≠ '"' ∧ c ≠ '\\' := by
  have digit : ∀ d < 16, hexDigit d ≠ '"' ∧ hexDigit d ≠ '\\' := by decide
  induction width generalizing n with
  | zero => exact fun c member => (by cases member)
  | succ width ih =>
    intro c member
    rcases List.mem_append.1 member with member | member
    · exact ih _ c member
    · cases List.mem_singleton.1 member
      exact digit _ (Nat.mod_lt _ (by decide))

theorem inside_unitEscape (n : Nat) : Inside (unitEscape n) :=
  .escape 'u' (.of_forall (hexDigits_plain 4 n))

theorem inside_quoteBody (c : Char) : Inside (quoteBody c) := by
  unfold quoteBody
  split
  · exact .escape _ .nil
  · next quote =>
    split
    · exact .escape _ .nil
    · next slash =>
      split_ifs
      · exact .escape _ .nil
      · exact .escape _ .nil
      · exact .escape _ .nil
      · exact .escape _ .nil
      · exact .escape _ .nil
      · exact .plain quote slash .nil
      · exact inside_unitEscape _
      · exact (inside_unitEscape _).append (inside_unitEscape _)

/-- What follows the opening quote of a text. -/
def quoteTail (text : String) : List Char :=
  text.toList.flatMap quoteBody ++ ['"']

theorem quote_eq (text : String) : quote text = String.ofList ('"' :: quoteTail text) := rfl

theorem inside_flatMap (s : List Char) : Inside (s.flatMap quoteBody) := by
  induction s with
  | nil => exact .nil
  | cons c s ih =>
    rw [List.flatMap_cons]
    exact (inside_quoteBody c).append ih

/-- A quoted text is found as one literal. -/
theorem shape_quote {mode : Mode} (code : mode.InCode) (previous : Option Char) (text : String)
    (w : List Char) : shape mode previous '"' (quoteTail text ++ w) =
      some ⟨.doubleQuoted, (quoteTail text).length, ⟨mode.nesting, false⟩⟩ := by
  have literal : codeShape mode previous '"' (quoteTail text ++ w) =
      some ⟨.doubleQuoted, (quoteTail text).length, ⟨mode.nesting, false⟩⟩ := by
    have length := (inside_flatMap text.toList).quotedLength w
    rw [codeShape_eq_letterShape (by decide), quoteTail, List.append_assoc]
    have word : isWord '"' = false := by decide
    have starts : startsName '"' = false := by decide
    simp [letterShape, wordShape, bodyNameLength, nameLength, literalShape, word, starts, length,
      isAsciiLetter]
  rw [shape_eq_codeShape code (by decide), literal]

/-- The mark between a key and its value. -/
theorem shape_colon {mode : Mode} (code : mode.InCode) (previous : Option Char) (w : List Char) :
    shape mode previous ':' (' ' :: w) = some ⟨.operator, 0, ⟨mode.nesting, true⟩⟩ := by
  rw [shape_eq_codeShape code (by decide), codeShape_eq_plainShape (by decide)
    (triviaShape_eq_none_of_first (by decide) (by decide) (by decide)) (by decide)]
  rfl

theorem shape_space {mode : Mode} (code : mode.InCode) (p : Char) (w : List Char) :
    shape ⟨mode.nesting, true⟩ (some p) ' ' ('"' :: w) =
      some ⟨.blank, 0, ⟨mode.nesting, true⟩⟩ := by
  have code' : Mode.InCode ⟨mode.nesting, true⟩ := code
  rw [shape_eq_codeShape code' (by decide)]
  rfl

end Quoted

end Folio.Script
