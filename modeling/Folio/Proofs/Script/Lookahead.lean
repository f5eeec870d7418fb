import Folio.Script.Lexer
import Mathlib.Data.List.Find
import Mathlib.Data.List.TakeWhile

/-!
# What a token owes to the text after it

A rule of the lexer looks past its own token, but never far enough to tell a name from the quoted
literal that replaces it: if two texts are alike up to a name (`Forks`), a token before that name
is found in both (`shape_of_forks`).
-/

namespace Folio.Script

open Text

/-- A character of a name. -/
def inName (c : Char) : Bool :=
  continuesName c || isWord c

theorem inName_of_continuesName {c : Char} (continues : continuesName c = true) :
    inName c = true := by
  simp [inName, continues]

/-- A character of a mark: it is in no name, and neither a quote nor a colon. -/
def inMark (c : Char) : Bool :=
  !inName c && c ≠ '"' && c ≠ ':'

theorem inMark_iff {c : Char} : inMark c = true ↔ inName c = false ∧ c ≠ '"' ∧ c ≠ ':' := by
  simp [inMark, and_assoc]

/-- Two texts alike up to a name, where the second has a quote in place of the name or a colon after
it, or alike to their ends. -/
inductive Forks : List Char → List Char → Prop
  | done : Forks [] []
  | quoted {c : Char} (named : continuesName c = true) (w w' : List Char) : Forks (c :: w) ('"' :: w')
  | labelled {c : Char} (named : inName c = true) (w w' : List Char) :
      Forks (c :: w) (c :: ':' :: w')
  | cons (c : Char) {w w' : List Char} (later : Forks w w') : Forks (c :: w) (c :: w')

/-- Whether a run of characters ends where a text begins. -/
def Stops (p : Char → Bool) (s : List Char) : Prop :=
  ∀ c, s.head? = some c → p c = false

/-! ## Runs -/

section Run

variable {p : Char → Bool} {u w w' : List Char}

theorem run_cons_eq (p : Char → Bool) (c : Char) (s : List Char) :
    run p (c :: s) = if p c then run p s + 1 else 0 := by
  unfold run
  rw [List.takeWhile_cons]
  split <;> rfl

theorem run_eq_zero_iff {s : List Char} : run p s = 0 ↔ Stops p s := by
  cases s with
  | nil => simp [run, Stops]
  | cons c s => simp [run_cons_eq, Stops]

theorem takeWhile_append_of_stops (stops : Stops p w → Stops p w')
    (le : run p (u ++ w) ≤ u.length) : (u ++ w').takeWhile p = (u ++ w).takeWhile p := by
  induction u with
  | nil =>
    have zero : run p w = 0 := Nat.le_zero.1 le
    have zero' := run_eq_zero_iff.2 (stops (run_eq_zero_iff.1 zero))
    exact (List.length_eq_zero_iff.1 zero').trans (List.length_eq_zero_iff.1 zero).symm
  | cons c u ih =>
    rw [List.cons_append, run_cons_eq] at le
    rw [List.cons_append, List.cons_append, List.takeWhile_cons, List.takeWhile_cons]
    cases holds : p c with
    | true =>
      rw [if_pos holds, List.length_cons] at le
      rw [if_pos rfl, if_pos rfl, ih (by omega)]
    | false => rfl

/-- A run that ends before or with a text is the same if what follows the text changes. -/
theorem run_append_of_stops (stops : Stops p w → Stops p w') (le : run p (u ++ w) ≤ u.length) :
    run p (u ++ w') = run p (u ++ w) := by
  rw [run, run, takeWhile_append_of_stops stops le]

theorem stops_of_run_eq (exact : run p (u ++ w) = u.length) : Stops p w := by
  induction u with
  | nil => exact run_eq_zero_iff.1 exact
  | cons c u ih =>
    rw [List.cons_append, run_cons_eq, List.length_cons] at exact
    split at exact
    · exact ih (by omega)
    · omega

theorem exists_of_length_lt_run (lt : u.length < run p (u ++ w)) :
    (∀ c ∈ u, p c = true) ∧ ∃ d v, w = d :: v ∧ p d = true := by
  induction u with
  | nil =>
    cases w with
    | nil => simp [run] at lt
    | cons d v =>
      rw [List.nil_append, run_cons_eq] at lt
      split at lt
      · next holds => exact ⟨by simp, d, v, rfl, holds⟩
      · cases lt
  | cons c u ih =>
    rw [List.cons_append, run_cons_eq, List.length_cons] at lt
    split at lt
    · next holds =>
      obtain ⟨all, more⟩ := ih (by omega)
      exact ⟨List.forall_mem_cons.2 ⟨holds, all⟩, more⟩
    · cases lt

theorem run_mono {q : Char → Bool} (imp : ∀ c, p c = true → q c = true) (s : List Char) :
    run p s ≤ run q s := by
  induction s with
  | nil => exact Nat.le_refl 0
  | cons c s ih =>
    rw [run_cons_eq, run_cons_eq]
    split
    · next holds =>
      rw [if_pos (imp c holds)]
      exact Nat.succ_le_succ ih
    · exact Nat.zero_le _

end Run

/-! ## Texts that fork -/

namespace Forks

variable {w w' : List Char} {n : Nat}

theorem append (forks : Forks w w') (u : List Char) : Forks (u ++ w) (u ++ w') := by
  induction u with
  | nil => exact forks
  | cons c u ih => exact ih.cons c

/-- Characters that are in no name are the same in both texts. -/
theorem take_eq (forks : Forks w w') (unnamed : ∀ c ∈ w.take n, inName c = false) :
    w'.take n = w.take n := by
  induction forks generalizing n with
  | done => rfl
  | quoted named =>
    cases n with
    | zero => rfl
    | succ n => simp [inName_of_continuesName named] at unnamed
  | labelled named =>
    cases n with
    | zero => rfl
    | succ n => simp [named] at unnamed
  | cons c later ih =>
    cases n with
    | zero => rfl
    | succ n =>
      have unnamed := ih fun d member => unnamed d (List.mem_cons_of_mem c member)
      simp [unnamed]

/-- Characters that are neither a quote nor a colon are the same in both texts. -/
theorem take_eq' (forks : Forks w w') (plain : ∀ c ∈ w'.take n, c ≠ '"' ∧ c ≠ ':') :
    w.take n = w'.take n := by
  induction forks generalizing n with
  | done => rfl
  | quoted named =>
    cases n with
    | zero => rfl
    | succ n => simp at plain
  | labelled named w w' =>
    match n with
    | 0 => rfl
    | 1 => rfl
    | n + 2 => simp at plain
  | cons c later ih =>
    cases n with
    | zero => rfl
    | succ n =>
      have plain := ih fun d member => plain d (List.mem_cons_of_mem c member)
      simp [plain]

theorem drop (forks : Forks w w') (unnamed : ∀ c ∈ w.take n, inName c = false) :
    Forks (w.drop n) (w'.drop n) := by
  induction forks generalizing n with
  | done => simpa using Forks.done
  | quoted named =>
    cases n with
    | zero => exact .quoted named _ _
    | succ n => simp [inName_of_continuesName named] at unnamed
  | labelled named =>
    cases n with
    | zero => exact .labelled named _ _
    | succ n => simp [named] at unnamed
  | cons c later ih =>
    cases n with
    | zero => exact later.cons c
    | succ n => exact ih fun d member => unnamed d (List.mem_cons_of_mem c member)

theorem stops (forks : Forks w w') {p : Char → Bool} (quote : p '"' = false) (stops : Stops p w) :
    Stops p w' := by
  cases forks with
  | done => exact stops
  | quoted named => simpa [Stops] using quote
  | labelled named => exact stops
  | cons c later => exact stops

/-- A run over all names ends in both texts or in neither. -/
theorem stops_of_name (forks : Forks w w') {p : Char → Bool}
    (names : ∀ c, inName c = true → p c = true) (stops : Stops p w) : Stops p w' := by
  cases forks with
  | done => exact stops
  | quoted named => exact absurd (names _ (inName_of_continuesName named)) (by simpa [Stops] using stops)
  | labelled named => exact stops
  | cons c later => exact stops

/-- A mark is in both texts or in neither. -/
theorem isPrefixOf_eq (forks : Forks w w') {m : List Char}
    (mark : m.all inMark = true) : m.isPrefixOf w' = m.isPrefixOf w := by
  have plain : ∀ c ∈ m, inName c = false ∧ c ≠ '"' ∧ c ≠ ':' :=
    fun c member => inMark_iff.1 (List.all_eq_true.1 mark c member)
  rw [Bool.eq_iff_iff, List.isPrefixOf_iff_prefix, List.isPrefixOf_iff_prefix,
    List.prefix_iff_eq_take, List.prefix_iff_eq_take]
  constructor
  · intro marked
    rw [forks.take_eq' fun c member => (plain c (marked ▸ member)).2]
    exact marked
  · intro marked
    rw [forks.take_eq fun c member => (plain c (marked ▸ member)).1]
    exact marked

theorem head?_eq_some_iff (forks : Forks w w') {c : Char} (unnamed : inName c = false)
    (quote : c ≠ '"') : w'.head? = some c ↔ w.head? = some c := by
  cases forks with
  | done => rfl
  | @quoted d named =>
    have other : d ≠ c := by
      rintro rfl
      rw [inName_of_continuesName named] at unnamed
      cases unnamed
    simp [Ne.symm quote, other]
  | labelled named => rfl
  | cons d later => rfl

end Forks

/-! ## Lexemes that end with a mark -/

section Marked

variable {s : List Char} {n : Nat}

theorem blockCommentLength_pos (found : blockCommentLength s = some n) : 0 < n := by
  fun_cases blockCommentLength s with
  | case1 =>
    cases found
    exact Nat.two_pos
  | case2 c r plain =>
    rw [blockCommentLength.eq_2 c r plain] at found
    obtain ⟨m, -, rfl⟩ := Option.map_eq_some_iff.1 found
    exact Nat.succ_pos m
  | case3 => cases found

/-- A closed comment is found whatever follows it. -/
theorem blockCommentLength_take (found : blockCommentLength s = some n) (w' : List Char) :
    blockCommentLength (s.take n ++ w') = some n := by
  fun_induction blockCommentLength s generalizing n with
  | case1 r =>
    cases found
    rfl
  | case2 c r plain ih =>
    obtain ⟨m, foundRest, rfl⟩ := Option.map_eq_some_iff.1 found
    have plain' : ∀ rest, c = '*' → r.take m ++ w' = '/' :: rest → False := by
      intro rest star slash
      have positive := blockCommentLength_pos foundRest
      cases r with
      | nil => cases foundRest
      | cons d r =>
        obtain ⟨m, rfl⟩ := Nat.exists_eq_succ_of_ne_zero (Nat.ne_of_gt positive)
        exact plain r star (by rw [(List.cons.inj slash).1])
    rw [List.take_succ_cons, List.cons_append, blockCommentLength.eq_2 _ _ plain', ih foundRest]
    rfl
  | case3 => cases found

theorem ne_backslash {c : Char} {r : List Char} (last : c = '\\' → r = [] → False)
    (escape : ∀ d rest, c = '\\' → r = d :: rest → False) : c ≠ '\\' := by
  intro same
  cases r with
  | nil => exact last same rfl
  | cons d rest => exact escape d rest same rfl

theorem regexBodyLength_cons {c : Char} (plain : c ≠ '\\') (inClass : Bool) (r : List Char) :
    regexBodyLength inClass (c :: r) =
      if c = '\n' then none
      else if inClass then (regexBodyLength (c ≠ ']') r).map (· + 1)
      else if c = '/' then some 1
      else (regexBodyLength (c = '[') r).map (· + 1) :=
  regexBodyLength.eq_4 inClass c r (fun same => absurd same plain) fun _ _ same => absurd same plain

theorem quotedLength_cons {c : Char} (plain : c ≠ '\\') (quote : Char) (r : List Char) :
    quotedLength quote (c :: r) =
      if c = quote then some 1 else (quotedLength quote r).map (· + 1) :=
  quotedLength.eq_4 quote c r (fun same => absurd same plain) fun _ _ same => absurd same plain

theorem regexBodyLength_take {inClass : Bool} (found : regexBodyLength inClass s = some n)
    (w' : List Char) : regexBodyLength inClass (s.take n ++ w') = some n := by
  fun_induction regexBodyLength inClass s generalizing n with
  | case1 => cases found
  | case2 => cases found
  | case3 inClass d r ih =>
    obtain ⟨m, foundRest, rfl⟩ := Option.map_eq_some_iff.1 found
    simp [regexBodyLength, ih foundRest]
  | case4 => cases found
  | case5 c r last escape line ih =>
    obtain ⟨m, foundRest, rfl⟩ := Option.map_eq_some_iff.1 found
    simpa [regexBodyLength_cons (ne_backslash last escape), line] using ih foundRest
  | case6 inClass r outside last escape line =>
    cases found
    simp [regexBodyLength_cons, outside]
  | case7 inClass c r last escape line outside slash ih =>
    obtain ⟨m, foundRest, rfl⟩ := Option.map_eq_some_iff.1 found
    simp [regexBodyLength_cons (ne_backslash last escape), line, outside, slash, ih foundRest]

theorem quotedLength_take {quote : Char} (found : quotedLength quote s = some n)
    (w' : List Char) : quotedLength quote (s.take n ++ w') = some n := by
  fun_induction quotedLength quote s generalizing n with
  | case1 => cases found
  | case2 => cases found
  | case3 d r ih =>
    obtain ⟨m, foundRest, rfl⟩ := Option.map_eq_some_iff.1 found
    simp [quotedLength, ih foundRest]
  | case4 r last escape =>
    cases found
    simp [quotedLength_cons (ne_backslash last escape)]
  | case5 c r last escape other ih =>
    obtain ⟨m, foundRest, rfl⟩ := Option.map_eq_some_iff.1 found
    simp [quotedLength_cons (ne_backslash last escape), other, ih foundRest]

end Marked

/-! ## Trivia and regular expressions -/

section Rules

variable {u w w' : List Char} {c : Char}

theorem startsHtmlComment_eq {r r' : List Char} (forks : Forks r r') (c : Char) :
    startsHtmlComment c r' = startsHtmlComment c r := by
  unfold startsHtmlComment
  rw [forks.isPrefixOf_eq (by decide)]

theorem run_append (forks : Forks w w') {p : Char → Bool} (quote : p '"' = false)
    (le : run p (u ++ w) ≤ u.length) : run p (u ++ w') = run p (u ++ w) :=
  run_append_of_stops (forks.stops quote) le

/-- A run up to the end of a line ends at the same place. -/
theorem run_line_append (forks : Forks w w') (exact : run (· ≠ '\n') (u ++ w) = u.length) :
    run (· ≠ '\n') (u ++ w') = u.length := by
  have names : ∀ c, inName c = true → (c ≠ '\n' : Bool) = true := by
    intro c named
    rw [decide_eq_true_eq]
    rintro rfl
    exact absurd named (by decide)
  exact (run_append_of_stops (forks.stops_of_name names) (Nat.le_of_eq exact)).trans exact

theorem triviaShape_append (forks : Forks w w') {kind : Kind}
    (found : triviaShape c (u ++ w) = some (kind, u.length)) :
    triviaShape c (u ++ w') = some (kind, u.length) := by
  unfold triviaShape at found ⊢
  rw [startsHtmlComment_eq (forks.append u)]
  split at found
  · next blank =>
    obtain ⟨rfl, exact⟩ := Prod.mk.inj (Option.some.inj found)
    rw [if_pos blank, run_append forks (by decide) (Nat.le_of_eq exact), exact]
  · next blank =>
    rw [if_neg blank]
    split at found
    · next html =>
      rw [if_pos html]
      exact found
    · next html =>
      rw [if_neg html]
      split at found
      · next slash =>
        rw [if_pos slash]
        cases u with
        | nil =>
          split at found
          · simp at found
          · obtain ⟨m, -, same⟩ := Option.map_eq_some_iff.1 found
            simp at same
          · cases found
        | cons d u =>
          rw [List.cons_append] at found
          split at found
          · next r same =>
            obtain ⟨rfl, rfl⟩ := List.cons.inj same
            obtain ⟨rfl, exact⟩ := Prod.mk.inj (Option.some.inj found)
            have exact := run_line_append forks (Nat.succ.inj exact)
            exact congrArg (fun n => some (Kind.comment, n + 1)) exact
          · next r same =>
            obtain ⟨rfl, rfl⟩ := List.cons.inj same
            obtain ⟨m, foundRest, same⟩ := Option.map_eq_some_iff.1 found
            obtain ⟨rfl, exact⟩ := Prod.mk.inj same
            have exact : m = u.length := Nat.succ.inj exact
            subst exact
            have closed := blockCommentLength_take foundRest w'
            rw [List.take_left] at closed
            simp [closed]
          · cases found
      · cases found

/-- What is no trivia stays none, unless a comment may be opened. -/
theorem triviaShape_eq_none (forks : Forks w w') (nothing : triviaShape c w = none)
    (unopened : c = '/' → w.head? ≠ some '*') : triviaShape c w' = none := by
  unfold triviaShape at nothing ⊢
  rw [startsHtmlComment_eq forks]
  split at nothing
  · cases nothing
  · next blank =>
    rw [if_neg blank]
    split at nothing
    · cases nothing
    · next html =>
      rw [if_neg html]
      split at nothing
      · next slash =>
        rw [if_pos slash]
        have star : w'.head? ≠ some '*' := fun star =>
          unopened slash ((forks.head?_eq_some_iff (by decide) (by decide)).1 star)
        have slash' : w'.head? ≠ some '/' := by
          intro slash'
          have head := (forks.head?_eq_some_iff (by decide) (by decide)).1 slash'
          cases w with
          | nil => cases head
          | cons d w =>
            cases Option.some.inj head
            cases nothing
        split
        · exact absurd rfl slash'
        · exact absurd rfl star
        · rfl
      · next slash => rw [if_neg slash]

theorem regexLength_eq_some_iff {r : List Char} {n : Nat} : regexLength r = some n ↔
    ∃ m, regexBodyLength false r = some m ∧ n = m + run isRegexFlag (r.drop m) ∧
      Stops isWord (r.drop n) := by
  unfold regexLength
  constructor
  · intro found
    split at found
    · cases found
    · next m body =>
      dsimp only at found
      split at found
      · next rest =>
        cases found
        exact ⟨m, body, rfl, by simp [rest, Stops]⟩
      · next c more rest =>
        split at found
        · cases found
        · next plain =>
          cases found
          exact ⟨m, body, rfl, by simpa [rest, Stops] using plain⟩
  · rintro ⟨m, body, rfl, stops⟩
    rw [body]
    dsimp only
    split
    · rfl
    · next c more rest => rw [if_neg (by simp [stops c (by rw [rest]; rfl)])]

theorem regexLength_append (forks : Forks w w') (found : regexLength (u ++ w) = some u.length) :
    regexLength (u ++ w') = some u.length := by
  obtain ⟨m, body, exact, stops⟩ := regexLength_eq_some_iff.1 found
  have le : m ≤ u.length := by omega
  have body' := regexBodyLength_take body (u.drop m ++ w')
  rw [List.take_append_of_le_length le, ← List.append_assoc, List.take_append_drop] at body'
  rw [List.drop_append_of_le_length le] at exact
  rw [List.drop_left] at stops
  have flags := run_append forks (p := isRegexFlag) (u := u.drop m) (by decide) (by simp; omega)
  rw [← flags, ← List.drop_append_of_le_length le] at exact
  refine regexLength_eq_some_iff.2 ⟨m, body', exact, ?_⟩
  rw [List.drop_left]
  exact forks.stops (by decide) stops

/-! ## Numbers -/

theorem bigMark_append (forks : Forks w w') (exact : bigMark (u ++ w) = u.length) :
    bigMark (u ++ w') = u.length := by
  cases u with
  | nil =>
    have stops : Stops (· == 'n') w := by
      intro d head
      by_cases mark : d = 'n'
      · subst mark
        simp [bigMark, head] at exact
      · simpa using mark
    have stops' := forks.stops (by decide) stops
    unfold bigMark
    rw [List.nil_append, if_neg fun head => by simpa using stops' _ head]
    rfl
  | cons d u => exact exact

theorem radixLength_eq_none_iff {skip : Nat} {p : Char → Bool} {r : List Char} :
    radixLength skip p r = none ↔ Stops p (r.drop skip) := by
  unfold radixLength
  rw [← run_eq_zero_iff]
  dsimp only
  split <;> simp_all

theorem radixLength_append (forks : Forks w w') {skip : Nat} {p : Char → Bool}
    (quote : p '"' = false) (found : radixLength skip p (u ++ w) = some u.length) :
    radixLength skip p (u ++ w') = some u.length := by
  unfold radixLength at found ⊢
  dsimp only at found ⊢
  split at found
  · cases found
  · next some' =>
    have exact := Option.some.inj found
    have le : skip ≤ u.length := by omega
    rw [List.drop_append_of_le_length le] at exact some'
    generalize digitsIs : run p (u.drop skip ++ w) = digits at exact some'
    have le' : skip + digits ≤ u.length := by omega
    have digits' : run p (u.drop skip ++ w') = digits := by
      rw [run_append forks quote (by rw [List.length_drop]; omega), digitsIs]
    rw [List.drop_append_of_le_length le'] at exact
    have mark := bigMark_append forks (u := u.drop (skip + digits))
      (by rw [List.length_drop]; omega)
    rw [List.drop_append_of_le_length le, digits', if_neg some', List.drop_append_of_le_length le',
      mark, List.length_drop]
    congr 1
    omega

/-- What follows a leading zero: how many marks of the radix and which digits. -/
def radixOf (d : Char) : Nat × (Char → Bool) :=
  if d = 'b' ∨ d = 'B' then (1, isBinaryDigit)
  else if d = 'o' ∨ d = 'O' then (1, isOctalDigit)
  else if d = 'x' ∨ d = 'X' then (1, isHexDigit)
  else (0, isOctalDigit)

theorem prefixedNumberLength_cons (c d : Char) (s : List Char) :
    prefixedNumberLength c (d :: s) =
      if c ≠ '0' then none else radixLength (radixOf d).1 (radixOf d).2 (d :: s) := by
  unfold prefixedNumberLength radixOf
  dsimp only
  split_ifs <;> rfl

theorem radixOf_plain (d : Char) :
    (radixOf d).1 ≤ 1 ∧ (radixOf d).2 '"' = false ∧ (radixOf d).2 ':' = false := by
  unfold radixOf
  split_ifs <;> decide

theorem prefixedNumberLength_append (forks : Forks w w')
    (found : prefixedNumberLength c (u ++ w) = some u.length) :
    prefixedNumberLength c (u ++ w') = some u.length := by
  cases u with
  | nil =>
    exfalso
    cases w with
    | nil => simp [prefixedNumberLength] at found
    | cons d w =>
      rw [List.nil_append, prefixedNumberLength_cons, radixLength] at found
      split_ifs at found
      have := Option.some.inj found
      simp at this
      omega
  | cons d u =>
    rw [List.cons_append, prefixedNumberLength_cons] at found ⊢
    split at found
    · cases found
    · next zero =>
      rw [if_neg zero]
      exact radixLength_append (u := d :: u) forks (radixOf_plain d).2.1 found

theorem prefixedNumberLength_eq_none (forks : Forks w w')
    (nothing : prefixedNumberLength c w = none) : prefixedNumberLength c w' = none := by
  have afterZero (d : Char) (s : List Char) : prefixedNumberLength c (d :: s) = none ↔
      c = '0' → Stops (radixOf d).2 ((d :: s).drop (radixOf d).1) := by
    rw [prefixedNumberLength_cons]
    split <;> simp_all [radixLength_eq_none_iff]
  cases forks with
  | done => exact nothing
  | quoted named => exact (afterZero _ _).2 fun _ => by simp [Stops, radixOf]; decide
  | @labelled d named w w' =>
    rw [afterZero] at nothing ⊢
    intro zero
    have nothing := nothing zero
    obtain ⟨le, -, colon⟩ := radixOf_plain d
    rcases Nat.le_one_iff_eq_zero_or_eq_one.1 le with skip | skip
    · rwa [skip] at nothing ⊢
    · rw [skip]
      simpa [Stops] using colon
  | @cons d w w' later =>
    rw [afterZero] at nothing ⊢
    intro zero
    have nothing := nothing zero
    obtain ⟨le, quote, -⟩ := radixOf_plain d
    rcases Nat.le_one_iff_eq_zero_or_eq_one.1 le with skip | skip
    · rwa [skip] at nothing ⊢
    · rw [skip] at nothing ⊢
      exact later.stops quote nothing

/-- The sign of an exponent. -/
def signLength (r : List Char) : Nat :=
  if r.head? = some '+' ∨ r.head? = some '-' then 1 else 0

theorem exponentLength_cons (c : Char) (r : List Char) : exponentLength (c :: r) =
    if c = 'e' ∨ c = 'E' then
      if run isAsciiDigit (r.drop (signLength r)) = 0 then 0
      else 1 + signLength r + run isAsciiDigit (r.drop (signLength r))
    else 0 := rfl

theorem signLength_eq (forks : Forks w w') : signLength w' = signLength w := by
  unfold signLength
  simp only [forks.head?_eq_some_iff (c := '+') (by decide) (by decide),
    forks.head?_eq_some_iff (c := '-') (by decide) (by decide)]

theorem Forks.drop_signLength (forks : Forks w w') :
    Forks (w.drop (signLength w)) (w'.drop (signLength w)) := by
  refine forks.drop fun c member => ?_
  unfold signLength at member
  split at member
  · next signed =>
    cases w with
    | nil => cases member
    | cons d w =>
      rcases signed with signed | signed <;> cases Option.some.inj signed <;>
        cases List.mem_singleton.1 member <;> decide
  · cases member

theorem exponentLength_append (forks : Forks w w')
    (exact' : exponentLength (u ++ w) = u.length) : exponentLength (u ++ w') = u.length := by
  cases u with
  | nil =>
    rw [List.nil_append] at exact' ⊢
    have unsigned {s s' : List Char} {c : Char} (later : Forks s s')
        (nothing : exponentLength (c :: s) = 0) : exponentLength (c :: s') = 0 := by
      rw [exponentLength_cons] at nothing ⊢
      rw [signLength_eq later]
      split at nothing
      · next mark =>
        rw [if_pos mark]
        split at nothing
        · next zero =>
          rw [if_pos]
          exact run_eq_zero_iff.2 (later.drop_signLength.stops (by decide)
            (run_eq_zero_iff.1 zero))
        · omega
      · next mark => rw [if_neg mark]
    cases forks with
    | done => exact exact'
    | quoted named => rfl
    | labelled named =>
      rw [exponentLength_cons]
      split <;> rfl
    | cons c later => exact unsigned later exact'
  | cons c u =>
    rw [List.cons_append, exponentLength_cons] at exact' ⊢
    rw [signLength_eq (forks.append u)]
    generalize signLength (u ++ w) = sign at exact' ⊢
    split_ifs at exact' with mark zero
    rw [List.length_cons] at exact'
    have le : sign ≤ u.length := by omega
    have le' : run isAsciiDigit ((u ++ w).drop sign) ≤ (u.drop sign).length := by
      rw [List.length_drop]
      omega
    rw [List.drop_append_of_le_length le] at exact' zero le' ⊢
    rw [if_pos mark, run_append forks (by decide) le', if_neg zero]
    exact exact'

/-- The length of what follows the leading digits of a decimal number. -/
def fractionLength : List Char → Nat
  | 'n' :: _ => 1
  | '.' :: r => 1 + run isAsciiDigit r + exponentLength (r.drop (run isAsciiDigit r))
  | r => exponentLength r

theorem decimalLength_of_digit (digit : isAsciiDigit c = true) (r : List Char) :
    decimalLength c r =
      some (run isAsciiDigit r + fractionLength (r.drop (run isAsciiDigit r))) := by
  unfold decimalLength fractionLength
  rw [if_pos digit]
  dsimp only
  split <;> simp_all [Nat.add_assoc]

/-- Digits and an exponent. -/
theorem placesLength_append (forks : Forks w w')
    (exact' : run isAsciiDigit (u ++ w) +
      exponentLength ((u ++ w).drop (run isAsciiDigit (u ++ w))) = u.length) :
    run isAsciiDigit (u ++ w') = run isAsciiDigit (u ++ w) ∧
      run isAsciiDigit (u ++ w') +
        exponentLength ((u ++ w').drop (run isAsciiDigit (u ++ w'))) = u.length := by
  have same := run_append forks (p := isAsciiDigit) (u := u) (by decide) (by omega)
  refine ⟨same, ?_⟩
  rw [same]
  generalize run isAsciiDigit (u ++ w) = digits at exact' ⊢
  have le : digits ≤ u.length := by omega
  rw [List.drop_append_of_le_length le] at exact' ⊢
  rw [exponentLength_append forks (by rw [List.length_drop]; omega), List.length_drop]
  omega

theorem fractionLength_cons {d : Char} (mark : d ≠ 'n') (point : d ≠ '.') (s : List Char) :
    fractionLength (d :: s) = exponentLength (d :: s) :=
  fractionLength.eq_3 _ (fun _ same => mark (List.cons.inj same).1)
    fun _ same => point (List.cons.inj same).1

theorem fractionLength_append (forks : Forks w w')
    (exact' : fractionLength (u ++ w) = u.length) : fractionLength (u ++ w') = u.length := by
  cases u with
  | nil =>
    rw [List.nil_append] at exact' ⊢
    have ends {d : Char} {s : List Char} (nothing : fractionLength (d :: s) = 0) :
        d ≠ 'n' ∧ d ≠ '.' := by
      constructor <;> rintro rfl <;> simp [fractionLength] at nothing
    cases forks with
    | done => exact exact'
    | quoted named => rfl
    | labelled named w w' =>
      obtain ⟨mark, point⟩ := ends exact'
      rw [fractionLength_cons mark point] at exact' ⊢
      exact exponentLength_append (u := []) (.labelled named w w') exact'
    | cons d later =>
      obtain ⟨mark, point⟩ := ends exact'
      rw [fractionLength_cons mark point] at exact' ⊢
      exact exponentLength_append (u := []) (later.cons d) exact'
  | cons d u =>
    by_cases mark : d = 'n'
    · subst mark
      exact exact'
    by_cases point : d = '.'
    · subst point
      rw [List.length_cons] at exact' ⊢
      simp only [List.cons_append, fractionLength] at exact' ⊢
      obtain ⟨same, total⟩ := placesLength_append (u := u) forks (by omega)
      omega
    · rw [List.cons_append, fractionLength_cons mark point] at exact' ⊢
      exact exponentLength_append (u := d :: u) forks exact'

theorem decimalLength_append (forks : Forks w w')
    (found : decimalLength c (u ++ w) = some u.length) :
    decimalLength c (u ++ w') = some u.length := by
  by_cases digit : isAsciiDigit c = true
  · rw [decimalLength_of_digit digit] at found ⊢
    have exact' := Option.some.inj found
    have same := run_append forks (p := isAsciiDigit) (u := u) (by decide) (by omega)
    rw [same]
    generalize run isAsciiDigit (u ++ w) = digits at exact' ⊢
    have le : digits ≤ u.length := by omega
    rw [List.drop_append_of_le_length le] at exact' ⊢
    rw [fractionLength_append forks (by rw [List.length_drop]; omega), List.length_drop]
    congr 1
    omega
  · unfold decimalLength at found ⊢
    rw [if_neg digit] at found ⊢
    split at found
    · next point =>
      dsimp only at found
      rw [if_pos point]
      dsimp only
      split at found
      · cases found
      · next some' =>
        obtain ⟨same, exact'⟩ := placesLength_append forks (Option.some.inj found)
        rw [exact', same, if_neg some']
    · cases found

theorem numberLength_append (forks : Forks w w')
    (found : numberLength c (u ++ w) = some u.length) :
    numberLength c (u ++ w') = some u.length := by
  unfold numberLength at found ⊢
  cases marked : prefixedNumberLength c (u ++ w) with
  | some n =>
    rw [marked] at found
    cases found
    rw [prefixedNumberLength_append forks marked]
    rfl
  | none =>
    rw [marked] at found
    rw [prefixedNumberLength_eq_none (forks.append u) marked]
    exact decimalLength_append forks found

theorem numberLength_eq_none (forks : Forks w w') (nothing : numberLength c w = none) :
    numberLength c w' = none := by
  unfold numberLength at nothing ⊢
  cases marked : prefixedNumberLength c w with
  | some n =>
    rw [marked] at nothing
    cases nothing
  | none =>
    rw [marked] at nothing
    rw [prefixedNumberLength_eq_none forks marked]
    change decimalLength c w = none at nothing
    change decimalLength c w' = none
    by_cases digit : isAsciiDigit c = true
    · rw [decimalLength_of_digit digit] at nothing
      cases nothing
    · unfold decimalLength at nothing ⊢
      rw [if_neg digit] at nothing ⊢
      split at nothing
      · next point =>
        dsimp only at nothing
        rw [if_pos point]
        dsimp only
        split at nothing
        · next zero =>
          rw [if_pos (run_eq_zero_iff.2 (forks.stops (by decide) (run_eq_zero_iff.1 zero)))]
        · cases nothing
      · next point => rw [if_neg point]

/-! ## Marks -/

theorem punctuationShape_eq (forks : Forks w w') (mode : Mode) (c : Char) :
    punctuationShape mode c w' = punctuationShape mode c w := by
  unfold punctuationShape
  rw [forks.isPrefixOf_eq (by decide)]
  simp only [forks.head?_eq_some_iff (c := '>') (by decide) (by decide)]

/-- The operators go on with characters that are in no name and neither quotes nor colons. -/
theorem operators_plain :
    ∀ t ∈ fixedOperators ++ assignableOperators, t.toList.tail.all inMark = true := by
  decide

theorem firstPrefix_eq (forks : Forks w w') {texts : List String}
    (plain : ∀ t ∈ texts, t.toList.tail.all inMark = true) (c : Char) :
    firstPrefix texts (c :: w') = firstPrefix texts (c :: w) := by
  refine List.find?_congr fun t member => ?_
  have plain := plain t member
  cases spelled : t.toList with
  | nil => rfl
  | cons d tail =>
    rw [spelled, List.tail_cons] at plain
    rw [List.isPrefixOf_cons_cons, List.isPrefixOf_cons_cons, forks.isPrefixOf_eq plain]

theorem operatorLength_eq (forks : Forks w w') (c : Char) :
    operatorLength c w' = operatorLength c w := by
  unfold operatorLength
  rw [firstPrefix_eq forks fun t member => operators_plain t (List.mem_append_left _ member),
    firstPrefix_eq forks fun t member => operators_plain t (List.mem_append_right _ member)]
  simp only [forks.head?_eq_some_iff (c := '\n') (by decide) (by decide)]
  split
  · rfl
  · split
    · rfl
    · split
      · next t found =>
        have plain := operators_plain t (List.mem_append_right _ (List.mem_of_find?_eq_some found))
        have marked := List.find?_some (p := fun t : String => t.toList.isPrefixOf (c :: w)) found
        have dropped : Forks (w.drop (t.length - 1)) (w'.drop (t.length - 1)) := by
          refine forks.drop fun d member => ?_
          rw [← String.length_toList] at member
          cases spelled : t.toList with
          | nil =>
            rw [spelled] at member
            cases member
          | cons e tail =>
            rw [spelled] at member marked plain
            rw [List.isPrefixOf_cons_cons, Bool.and_eq_true, List.isPrefixOf_iff_prefix,
              List.prefix_iff_eq_take] at marked
            refine (inMark_iff.1 (List.all_eq_true.1 plain d ?_)).1
            rw [List.tail_cons, marked.2]
            simpa using member
        simp only [dropped.head?_eq_some_iff (c := '=') (by decide) (by decide)]
      · rfl

/-! ## Names and words -/

/-- A character of a member path. -/
def inPath (c : Char) : Bool :=
  isWord c || c == '?' || c == '.' || c == '$'

/-- What follows a member path that is taken as one name. -/
def bodyMark : List Char :=
  ['(', ')', ' ', '\x7b']

theorem bodyNameLength_eq_some_iff {r : List Char} {n : Nat} : bodyNameLength c r = some n ↔
    (isAsciiLetter c || c == '_' || c == '$') = true ∧ ∃ path rest, r = path ++ (bodyMark ++ rest) ∧
      path.length = n ∧ ∀ d ∈ path, inPath d = true := by
  have same : bodyNameLength c r = if isAsciiLetter c || c == '_' || c == '$' then
      if bodyMark.isPrefixOf (r.drop (run inPath r)) then some (run inPath r) else none
      else none := rfl
  rw [same]
  constructor
  · intro found
    split_ifs at found with letter marked
    cases found
    obtain ⟨rest, marked⟩ := List.isPrefixOf_iff_prefix.1 marked
    refine ⟨letter, r.takeWhile inPath, rest, ?_, rfl, fun d member => List.mem_takeWhile_imp member⟩
    rw [marked, run]
    exact (List.takeWhile_append_dropWhile.symm.trans
      (congrArg _ (List.drop_left.symm.trans (congrArg _ List.takeWhile_append_dropWhile))))
  · rintro ⟨letter, path, rest, rfl, rfl, members⟩
    have exact' : run inPath (path ++ (bodyMark ++ rest)) = path.length := by
      rw [run, List.takeWhile_append_of_pos members]
      have ends : (bodyMark ++ rest).takeWhile inPath = [] := rfl
      rw [ends, List.append_nil]
    rw [if_pos letter, exact', List.drop_left, if_pos (by simp [List.isPrefixOf_iff_prefix])]

theorem bodyNameLength_append (forks : Forks w w')
    (found : bodyNameLength c (u ++ w) = some u.length) :
    bodyNameLength c (u ++ w') = some u.length := by
  obtain ⟨letter, path, rest, spelled, length, members⟩ := bodyNameLength_eq_some_iff.1 found
  obtain ⟨rfl, rfl⟩ := List.append_inj spelled length.symm
  have marked := forks.isPrefixOf_eq (m := bodyMark) (by decide)
  rw [List.isPrefixOf_iff_prefix.2 (List.prefix_append bodyMark rest)] at marked
  obtain ⟨rest', rfl⟩ := List.isPrefixOf_iff_prefix.1 marked
  exact bodyNameLength_eq_some_iff.2 ⟨letter, _, rest', rfl, rfl, members⟩

theorem bodyNameLength_eq_none (forks : Forks w w') (nothing : bodyNameLength c w = none) :
    bodyNameLength c w' = none := by
  refine Option.eq_none_iff_forall_ne_some.2 fun n found => ?_
  obtain ⟨letter, path, rest, rfl, length, members⟩ := bodyNameLength_eq_some_iff.1 found
  have plain : ∀ d ∈ path ++ bodyMark, d ≠ '"' ∧ d ≠ ':' := by
    intro d member
    rcases List.mem_append.1 member with member | member
    · have inside := members d member
      constructor <;> rintro rfl <;> exact absurd inside (by decide)
    · have marked : bodyMark.all inMark = true := by decide
      exact (inMark_iff.1 (List.all_eq_true.1 marked d member)).2
  have alike := forks.take_eq' (n := (path ++ bodyMark).length) (by
    rw [← List.append_assoc, List.take_left]
    exact plain)
  rw [← List.append_assoc, List.take_left] at alike
  have spelled : w = path ++ (bodyMark ++ w.drop (path ++ bodyMark).length) := by
    rw [← List.append_assoc]
    exact (List.take_append_drop _ w).symm.trans (congrArg (· ++ _) alike)
  rw [bodyNameLength_eq_some_iff.2 ⟨letter, path, _, spelled, length, members⟩] at nothing
  cases nothing

/-- An escape of a character by its number. -/
def isEscape : List Char → Bool
  | '\\' :: 'u' :: a :: b :: c :: d :: _ =>
    isHexDigit a && isHexDigit b && isHexDigit c && isHexDigit d
  | _ => false

theorem isEscape_eq_true_iff {s : List Char} : isEscape s = true ↔
    ∃ a b c d rest, s = ['\\', 'u', a, b, c, d] ++ rest ∧ isHexDigit a = true ∧
      isHexDigit b = true ∧ isHexDigit c = true ∧ isHexDigit d = true := by
  unfold isEscape
  split
  · simp [and_assoc]
  · next other =>
    simp only [Bool.false_eq_true, false_iff]
    rintro ⟨a, b, c, d, rest, same, -⟩
    exact other a b c d rest same

theorem isEscape_append (escape : isEscape (u ++ w) = true) (le : 6 ≤ u.length) (w' : List Char) :
    isEscape (u ++ w') = true := by
  obtain ⟨a, b, c, d, rest, same, hex⟩ := isEscape_eq_true_iff.1 escape
  obtain ⟨more, rfl⟩ := (List.prefix_of_prefix_length_le ⟨_, same.symm⟩ ⟨w, rfl⟩ le)
  exact isEscape_eq_true_iff.2 ⟨a, b, c, d, more ++ w', by simp, hex⟩

theorem isEscape_eq_false (forks : Forks w w') (nothing : isEscape w = false) :
    isEscape w' = false := by
  refine Bool.eq_false_iff.2 fun escape => ?_
  obtain ⟨a, b, c, d, rest, rfl, hexA, hexB, hexC, hexD⟩ := isEscape_eq_true_iff.1 escape
  have hex {e : Char} (digit : isHexDigit e = true) : e ≠ '"' ∧ e ≠ ':' := by
    constructor <;> rintro rfl <;> exact absurd digit (by decide)
  have alike := forks.take_eq' (n := 6) (by
    simp [hex hexA, hex hexB, hex hexC, hex hexD])
  have escape := isEscape_eq_true_iff.2 ⟨a, b, c, d, w.drop 6,
    (List.take_append_drop 6 w).symm.trans (congrArg (· ++ w.drop 6) alike), hexA, hexB, hexC, hexD⟩
  rw [nothing] at escape
  cases escape

theorem nameTailLength_of_isEscape {s : List Char} (escape : isEscape s = true) :
    nameTailLength s = nameTailLength (s.drop 6) + 6 := by
  obtain ⟨a, b, c, d, rest, rfl, hexA, hexB, hexC, hexD⟩ := isEscape_eq_true_iff.1 escape
  simp [nameTailLength, hexA, hexB, hexC, hexD]

theorem nameTailLength_cons {r : List Char} (plain : isEscape (c :: r) = false) :
    nameTailLength (c :: r) = if continuesName c then nameTailLength r + 1 else 0 := by
  by_cases marked : ∃ a b d e rest, c = '\\' ∧ r = 'u' :: a :: b :: d :: e :: rest
  · obtain ⟨a, b, d, e, rest, rfl, rfl⟩ := marked
    have hex : (isHexDigit a && isHexDigit b && isHexDigit d && isHexDigit e) = false := plain
    rw [nameTailLength.eq_1, hex, if_neg Bool.false_ne_true, if_neg (by decide)]
  · exact nameTailLength.eq_2 c r fun a b d e rest same same' =>
      marked ⟨a, b, d, e, rest, same, same'⟩

/-- Whether a name ends where a text begins. -/
theorem nameTailLength_eq_zero_iff {s : List Char} :
    nameTailLength s = 0 ↔ isEscape s = false ∧ Stops continuesName s := by
  cases escape : isEscape s with
  | true => simp [nameTailLength_of_isEscape escape]
  | false =>
    cases s with
    | nil => simp [nameTailLength, Stops]
    | cons c r => simp [nameTailLength_cons escape, Stops]

theorem nameTailLength_append (forks : Forks w w')
    (exact' : nameTailLength (u ++ w) = u.length) : nameTailLength (u ++ w') = u.length := by
  induction length : u.length using Nat.strongRecOn generalizing u with
  | ind n ih =>
  subst length
  cases escape : isEscape (u ++ w) with
  | true =>
    rw [nameTailLength_of_isEscape escape] at exact'
    have le : 6 ≤ u.length := by omega
    rw [List.drop_append_of_le_length le] at exact'
    have later := ih (u.drop 6).length (by rw [List.length_drop]; omega)
      (by rw [List.length_drop]; omega) rfl
    rw [nameTailLength_of_isEscape (isEscape_append escape le w'),
      List.drop_append_of_le_length le, later, List.length_drop]
    omega
  | false =>
    have escape' := isEscape_eq_false (forks.append u) escape
    cases u with
    | nil =>
      obtain ⟨-, stops⟩ := nameTailLength_eq_zero_iff.1 exact'
      exact nameTailLength_eq_zero_iff.2 ⟨escape', forks.stops (by decide) stops⟩
    | cons c u =>
      rw [List.cons_append] at exact' escape escape' ⊢
      rw [nameTailLength_cons escape] at exact'
      rw [nameTailLength_cons escape']
      split at exact'
      · next continues =>
        rw [if_pos continues, ih u.length (Nat.lt_succ_self _) (Nat.succ.inj exact') rfl]
        rfl
      · simp at exact'

theorem nameLength_eq (c : Char) (r : List Char) : nameLength c r =
    if startsName c then some (nameTailLength r)
    else if isEscape (c :: r) then some (nameTailLength (r.drop 5) + 5) else none := by
  unfold nameLength
  split
  · rfl
  · split
    · next slash =>
      subst slash
      split
      · rfl
      · next other =>
        rw [if_neg fun escape => ?_]
        obtain ⟨a, b, d, e, rest, same, -⟩ := isEscape_eq_true_iff.1 escape
        exact other a b d e rest (List.cons.inj same).2
    · next slash =>
      rw [if_neg fun escape => ?_]
      obtain ⟨a, b, d, e, rest, same, -⟩ := isEscape_eq_true_iff.1 escape
      exact slash (List.cons.inj same).1

theorem nameLength_append (forks : Forks w w')
    (found : nameLength c (u ++ w) = some u.length) : nameLength c (u ++ w') = some u.length := by
  rw [nameLength_eq] at found ⊢
  split at found
  · next starts =>
    rw [if_pos starts, nameTailLength_append forks (Option.some.inj found)]
  · next starts =>
    rw [if_neg starts]
    split at found
    · next escape =>
      have exact' := Option.some.inj found
      have le : 5 ≤ u.length := by omega
      rw [List.drop_append_of_le_length le] at exact'
      have later := nameTailLength_append forks (u := u.drop 5) (by rw [List.length_drop]; omega)
      have escape' : isEscape (c :: (u ++ w')) = true :=
        isEscape_append (u := c :: u) escape (Nat.succ_le_succ le) w'
      rw [if_pos escape', List.drop_append_of_le_length le, later, List.length_drop]
      congr 1
      omega
    · cases found

theorem nameLength_eq_none (forks : Forks w w') (nothing : nameLength c w = none) :
    nameLength c w' = none := by
  rw [nameLength_eq] at nothing ⊢
  split at nothing
  · cases nothing
  · next starts =>
    split at nothing
    · cases nothing
    · next escape =>
      rw [if_neg starts, isEscape_eq_false (forks.cons c) (Bool.eq_false_iff.2 escape)]
      rfl

/-- The characters of a reserved word go on a name. -/
theorem continuesName_of_wordKind {previous : Option Char} {word : String} {k : Kind × Bool}
    (reserved : wordKind previous word = some k) : ∀ d ∈ word.toList, continuesName d = true := by
  have listed : ∀ word ∈ operatorWords ++ contextualWords ++ keywords ++ declarationWords ++
      reservedWords ++ constantWords ++ builtinWords ++ exceptionWords,
      word.toList.all continuesName = true := by
    decide +kernel
  refine List.all_eq_true.1 (listed word ?_)
  unfold wordKind at reserved
  simp only [List.mem_append]
  by_contra other
  simp_all

theorem wordShape_eq {mode : Mode} {previous : Option Char}
    (same : (u ++ w').takeWhile isWord = (u ++ w).takeWhile isWord) :
    wordShape mode previous c (u ++ w') = wordShape mode previous c (u ++ w) := by
  rw [wordShape, wordShape, run, run, same]

theorem wordShape_eq_none (forks : Forks w w') {mode : Mode} {previous : Option Char}
    (nothing : wordShape mode previous c (u ++ w) = none) (stops : Stops continuesName w) :
    wordShape mode previous c (u ++ w') = none := by
  by_contra something
  have le : run isWord (u ++ w) ≤ u.length := by
    by_contra gt
    obtain ⟨all, d, v, rfl, word⟩ := exists_of_length_lt_run (Nat.lt_of_not_le gt)
    have ends : continuesName d = false := stops d rfl
    have same : ∃ v', w' = d :: v' := by
      cases forks with
      | quoted named => simp [ends] at named
      | labelled named => exact ⟨_, rfl⟩
      | cons d later => exact ⟨_, rfl⟩
    obtain ⟨v', rfl⟩ := same
    have member : d ∈ (u ++ d :: v').takeWhile isWord := by
      rw [List.takeWhile_append_of_pos all, List.takeWhile_cons_of_pos word]
      simp
    unfold wordShape at something
    split at something
    · obtain ⟨k, reserved⟩ := Option.ne_none_iff_exists'.1 fun none =>
        something (Option.map_eq_none_iff.2 none)
      have continues := continuesName_of_wordKind reserved d (by simp [member])
      simp [ends] at continues
    · exact something rfl
  rw [wordShape_eq (takeWhile_append_of_stops (forks.stops (by decide)) le)] at something
  exact something nothing

theorem nameTailLength_drop (s : List Char) : nameTailLength (s.drop (nameTailLength s)) = 0 := by
  fun_induction nameTailLength s with
  | case1 a b c d r hex ih => exact ih
  | case2 a b c d r hex => rw [List.drop_zero, nameTailLength.eq_1, if_neg hex]
  | case3 c r other continues ih => exact ih
  | case4 c r other continues => rw [List.drop_zero, nameTailLength.eq_2 c r other, if_neg continues]
  | case5 => rfl

theorem nameLength_stops (found : nameLength c (u ++ w) = some u.length) :
    Stops continuesName w := by
  rw [nameLength_eq] at found
  split at found
  · have ends := nameTailLength_drop (u ++ w)
    rw [Option.some.inj found, List.drop_left] at ends
    exact (nameTailLength_eq_zero_iff.1 ends).2
  · split at found
    · have ends := nameTailLength_drop ((u ++ w).drop 5)
      rw [List.drop_drop, Nat.add_comm, Option.some.inj found, List.drop_left] at ends
      exact (nameTailLength_eq_zero_iff.1 ends).2
    · cases found

/-! ## Shapes -/

variable {mode : Mode} {previous : Option Char} {s : Shape}

theorem literalShape_append (forks : Forks w w') (found : literalShape mode c (u ++ w) = some s)
    (more : s.more = u.length) : isWord c = false ∧ literalShape mode c (u ++ w') = some s := by
  unfold literalShape at found ⊢
  split at found
  · next quote =>
    subst quote
    obtain ⟨n, closed, rfl⟩ := Option.map_eq_some_iff.1 found
    cases more
    have closed' := quotedLength_take closed w'
    rw [List.take_left] at closed'
    exact ⟨by decide, by rw [if_pos rfl, closed']; rfl⟩
  · next quote =>
    rw [if_neg quote]
    split at found
    · next single =>
      subst single
      obtain ⟨n, closed, rfl⟩ := Option.map_eq_some_iff.1 found
      cases more
      have closed' := quotedLength_take closed w'
      rw [List.take_left] at closed'
      exact ⟨by decide, by rw [if_pos rfl, closed']; rfl⟩
    · next single =>
      rw [if_neg single]
      split at found
      · next back =>
        subst back
        exact ⟨by decide, by rw [if_pos rfl]; exact found⟩
      · next back =>
        rw [if_neg back]
        split at found
        · next hash =>
          subst hash
          refine ⟨by decide, ?_⟩
          rw [if_pos rfl]
          cases u with
          | nil =>
            split at found
            · split_ifs at found
              cases found
              simp at more
            · cases found
          | cons d u =>
            simp only [List.cons_append] at found ⊢
            split_ifs at found ⊢
            cases found
            have exact' : run isWord (u ++ w) = u.length := Nat.succ.inj more
            rw [run_append forks (by decide) (Nat.le_of_eq exact')]
        · cases found

/-- What begins in plain code and is neither a number nor a mark. -/
def letterShape (mode : Mode) (previous : Option Char) (c : Char) (r : List Char) : Option Shape :=
  match wordShape mode previous c r with
  | some s => some s
  | none =>
  match bodyNameLength c r with
  | some n => some ⟨.plainName, n, { mode with operand := true }⟩
  | none =>
  match nameLength c r with
  | some n => some ⟨.plainName, n, mode⟩
  | none => literalShape mode c r

theorem letterShape_append (forks : Forks w w')
    (found : letterShape mode previous c (u ++ w) = some s) (more : s.more = u.length) :
    letterShape mode previous c (u ++ w') = some s := by
  unfold letterShape at found ⊢
  cases word : wordShape mode previous c (u ++ w) with
  | some s' =>
    rw [word] at found
    cases found
    have exact' : run isWord (u ++ w) = u.length := by
      unfold wordShape at word
      split at word
      · obtain ⟨k, -, rfl⟩ := Option.map_eq_some_iff.1 word
        exact more
      · cases word
    rw [wordShape_eq (takeWhile_append_of_stops (forks.stops (by decide))
      (Nat.le_of_eq exact')), word]
  | none =>
    rw [word] at found
    dsimp only at found
    cases body : bodyNameLength c (u ++ w) with
    | some n =>
      rw [body] at found
      cases found
      cases more
      obtain ⟨letter, path, rest, spelled, length, members⟩ := bodyNameLength_eq_some_iff.1 body
      obtain ⟨rfl, rfl⟩ := List.append_inj spelled length.symm
      have le : run isWord (u ++ (bodyMark ++ rest)) ≤ u.length := by
        refine (run_mono (q := inPath) (fun d word => by simp [inPath, word]) _).trans ?_
        rw [run, List.takeWhile_append_of_pos members]
        exact Nat.le_of_eq (congrArg List.length (List.append_nil u))
      rw [wordShape_eq (takeWhile_append_of_stops (forks.stops (by decide)) le), word,
        bodyNameLength_append forks body]
    | none =>
      rw [body] at found
      dsimp only at found
      rw [bodyNameLength_eq_none (forks.append u) body]
      cases name : nameLength c (u ++ w) with
      | some n =>
        rw [name] at found
        cases found
        cases more
        rw [wordShape_eq_none forks word (nameLength_stops name), nameLength_append forks name]
      | none =>
        rw [name] at found
        dsimp only at found
        obtain ⟨other, found⟩ := literalShape_append forks found more
        have word' : wordShape mode previous c (u ++ w') = none := by
          rw [wordShape, other]
          rfl
        rw [word', nameLength_eq_none (forks.append u) name]
        exact found

theorem plainShape_append (forks : Forks w w')
    (found : plainShape mode previous c (u ++ w) = some s) (more : s.more = u.length) :
    plainShape mode previous c (u ++ w') = some s := by
  unfold plainShape at found ⊢
  rw [punctuationShape_eq (forks.append u), operatorLength_eq (forks.append u)]
  cases number : numberLength c (u ++ w) with
  | some n =>
    rw [number] at found
    cases found
    cases more
    rw [numberLength_append forks number]
  | none =>
    rw [number] at found
    rw [numberLength_eq_none (forks.append u) number]
    dsimp only at found ⊢
    cases punctuation : punctuationShape mode c (u ++ w) with
    | some s =>
      rw [punctuation] at found
      exact found
    | none =>
    rw [punctuation] at found
    dsimp only at found ⊢
    cases operator : operatorLength c (u ++ w) with
    | some n =>
      rw [operator] at found
      exact found
    | none =>
    rw [operator] at found
    dsimp only at found ⊢
    cases bracket : bracketShape mode c with
    | some s =>
      rw [bracket] at found
      exact found
    | none =>
    rw [bracket] at found
    exact letterShape_append forks found more

/-- A slash that begins no comment is an operator or begins a regular expression. -/
theorem plainShape_slash {r : List Char} (found : plainShape mode previous '/' r = some s) :
    s.kind = .operator := by
  have number : numberLength '/' r = none := rfl
  have punctuation : punctuationShape mode '/' r = none := rfl
  have operator : operatorLength '/' r ≠ none := by
    unfold operatorLength
    split
    · exact Option.some_ne_none _
    · split
      · exact Option.some_ne_none _
      · split
        · exact Option.some_ne_none _
        · next nothing =>
          exact absurd (by simp) (List.find?_eq_none.1 nothing "/" (by decide))
  obtain ⟨n, operator⟩ := Option.ne_none_iff_exists'.1 operator
  unfold plainShape at found
  rw [number, punctuation, operator] at found
  cases found
  rfl

theorem codeShape_append (forks : Forks w w')
    (found : codeShape mode previous c (u ++ w) = some s) (more : s.more = u.length)
    (closed : c = '/' → (u ++ w).head? = some '*' → s.kind ≠ .operator ∧ s.kind ≠ .regex) :
    codeShape mode previous c (u ++ w') = some s := by
  unfold codeShape at found ⊢
  have whole := forks.append u
  have opens : lineOpensOperand previous c (u ++ w') = lineOpensOperand previous c (u ++ w) := by
    rw [lineOpensOperand, lineOpensOperand, startsHtmlComment_eq whole]
  rw [whole.isPrefixOf_eq (m := ['!', '/']) (by decide),
    whole.isPrefixOf_eq (m := ['!', ' ', '/']) (by decide), opens]
  split at found
  · next hashbang =>
    rw [if_pos hashbang]
    cases found
    rw [run_line_append forks more, ← more]
  · next hashbang =>
    rw [if_neg hashbang]
    dsimp only at found ⊢
    cases trivia : triviaShape c (u ++ w) with
    | some k =>
      obtain ⟨kind, n⟩ := k
      rw [trivia] at found
      cases found
      cases more
      rw [triviaShape_append forks trivia]
    | none =>
      rw [trivia] at found
      dsimp only at found
      split at found
      · next regex =>
        obtain ⟨n, body, rfl⟩ := Option.map_eq_some_iff.1 found
        cases more
        rw [triviaShape_eq_none whole trivia fun slash star => (closed slash star).2 rfl]
        dsimp only
        rw [if_pos regex, regexLength_append forks body]
        rfl
      · next plain =>
        have unopened : c = '/' → (u ++ w).head? ≠ some '*' := by
          rintro rfl star
          exact (closed rfl star).1 (plainShape_slash found)
        rw [triviaShape_eq_none whole trivia unopened]
        dsimp only
        rw [if_neg plain]
        exact plainShape_append forks found more

theorem templateShape_append {outer : List Nesting}
    (heads : s.mode.nesting = .template :: outer → w'.head? = w.head?)
    (found : templateShape outer c (u ++ w) = some s) (more : s.more = u.length) :
    templateShape outer c (u ++ w') = some s := by
  unfold templateShape at found ⊢
  dsimp only at found ⊢
  split at found
  · next close =>
    rw [if_pos close]
    exact found
  · next close =>
    rw [if_neg close]
    split at found
    · next escape =>
      rw [if_pos escape]
      split at found
      · cases found
      · cases found
        cases u with
        | nil => cases more
        | cons d u => rfl
    · next escape =>
      rw [if_neg escape]
      split at found
      · next dollar =>
        rw [if_pos dollar]
        cases u with
        | nil =>
          split at found
          · cases found
            cases more
          · next plain =>
            cases found
            rw [List.nil_append, heads rfl]
            exact if_neg plain
        | cons d u => exact found
      · next dollar =>
        rw [if_neg dollar]
        cases found
        have stops := stops_of_run_eq more
        have stops' : Stops (fun d => d ≠ '`' && d ≠ '\\' && d ≠ '$') w' := by
          intro d head
          exact stops d (heads rfl ▸ head)
        have exact' := run_append_of_stops (fun _ => stops') (Nat.le_of_eq more)
        rw [exact']

/-- A token is found again if the text after it is another one up to a name. In a template the next
character has to be the same, and no operator or regular expression may look like a comment. -/
theorem shape_append (forks : Forks w w') (found : shape mode previous c (u ++ w) = some s)
    (more : s.more = u.length)
    (heads : s.mode.nesting.head? = some .template → w'.head? = w.head?)
    (closed : c = '/' → (u ++ w).head? = some '*' → s.kind ≠ .operator ∧ s.kind ≠ .regex) :
    shape mode previous c (u ++ w') = some s := by
  unfold shape at found ⊢
  cases nesting : mode.nesting with
  | nil =>
    rw [nesting] at found
    exact codeShape_append forks found more closed
  | cons n outer =>
    rw [nesting] at found
    cases n with
    | template =>
      exact templateShape_append (fun inside => heads (congrArg List.head? inside)) found more
    | substitution =>
      dsimp only at found ⊢
      split at found
      · next close =>
        rw [if_pos close]
        exact found
      · next close =>
        rw [if_neg close]
        exact codeShape_append forks found more closed

end Rules

end Folio.Script
