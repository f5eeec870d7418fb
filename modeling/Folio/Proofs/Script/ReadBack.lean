import Folio.Proofs.Script.Constant
import Folio.Proofs.Script.Rescan

/-!
# Quoted texts read back

A helper's call of a quoted text is read as one call of one argument (`parse_quotedCall`). The value
of that argument is the text with each escape that the reader does not know spelled out
(`unescape_flatMap`), and so the text itself as long as its characters come back.
-/

namespace Folio

open Text

namespace Text

/-! ## Characters -/

/-- The characters that are read back from a quoted text as they are. -/
def comesBack (c : Char) : Bool :=
  c == '\n' || c == '\r' || c == '\t' || 32 ≤ c.toNat && c.toNat < 127

/-- What is read for a quoted character: of an escape that is not known only the backslash goes. -/
def readBack (c : Char) : List Char :=
  if comesBack c then [c] else (quoteBody c).filter (· ≠ '\\')

theorem unescape_append_of_plain {s : List Char} (plain : ∀ c ∈ s, c ≠ '\\') (r : List Char) :
    unescape (s ++ r) = s ++ unescape r := by
  induction s with
  | nil => rfl
  | cons c s ih =>
    obtain ⟨first, later⟩ := List.forall_mem_cons.1 plain
    rw [List.cons_append, unescape, ih later]
    · rfl
    · rintro _ _ same -
      exact first same

theorem unescape_unitEscape (n : Nat) (r : List Char) :
    unescape (unitEscape n ++ r) = (unitEscape n).filter (· ≠ '\\') ++ unescape r := by
  have digits : ∀ c ∈ hexDigits 4 n, c ≠ '\\' := fun c member =>
    (Script.hexDigits_plain 4 n c member).2
  have kept : (hexDigits 4 n).filter (· ≠ '\\') = hexDigits 4 n := by
    rw [List.filter_eq_self]
    simpa using digits
  rw [unitEscape, List.cons_append, List.cons_append, unescape, unescape_append_of_plain digits,
    List.filter_cons_of_neg (by decide), List.filter_cons_of_pos (by decide), kept]
  rfl

theorem unescape_quoteBody (c : Char) (r : List Char) :
    unescape (quoteBody c ++ r) = readBack c ++ unescape r := by
  -- the cases are those of `quoteBody`: its short escapes, plain characters, and escapes by number
  by_cases back : comesBack c = true
  · rw [readBack, if_pos back]
    simp only [comesBack, Bool.or_eq_true, Bool.and_eq_true, beq_iff_eq, decide_eq_true_eq] at back
    by_cases slash : c = '\\'
    · subst slash
      rfl
    by_cases control : c = '"' ∨ c = '\n' ∨ c = '\r' ∨ c = '\t'
    · rcases control with rfl | rfl | rfl | rfl <;> rfl
    · simp only [not_or] at control
      obtain ⟨quote, line, back', tab⟩ := control
      have printable : 32 ≤ c.toNat ∧ c.toNat < 127 := by simpa [line, back', tab] using back
      have body : quoteBody c = [c] := by
        have large : c.toNat ≠ 8 ∧ c.toNat ≠ 12 := by omega
        simp [quoteBody, quote, slash, line, back', tab, large, printable]
      rw [body]
      exact unescape_append_of_plain (by simpa using slash) r
  · rw [readBack, if_neg back]
    simp only [comesBack, Bool.or_eq_true, Bool.and_eq_true, beq_iff_eq, decide_eq_true_eq,
      not_or] at back
    obtain ⟨⟨⟨line, back'⟩, tab⟩, printable⟩ := back
    have quote : c ≠ '"' := by
      rintro rfl
      exact printable (by decide)
    have slash : c ≠ '\\' := by
      rintro rfl
      exact printable (by decide)
    rw [quoteBody, if_neg quote, if_neg slash, if_neg line, if_neg back', if_neg tab]
    split_ifs with backspace feed printable' small
    · rfl
    · rfl
    · exact absurd (by simpa using printable') printable
    · exact unescape_unitEscape _ r
    · rw [List.append_assoc, unescape_unitEscape, unescape_unitEscape, List.filter_append,
        List.append_assoc]

/-- What is read for quoted characters before a text. -/
theorem unescape_flatMap (s r : List Char) :
    unescape (s.flatMap quoteBody ++ r) = s.flatMap readBack ++ unescape r := by
  induction s with
  | nil => rfl
  | cons c s ih =>
    rw [List.flatMap_cons, List.append_assoc, unescape_quoteBody, ih, List.flatMap_cons,
      List.append_assoc]

/-- A character that does not come back is read as something that begins with one that does. -/
theorem exists_readBack (c : Char) : ∃ d r, readBack c = d :: r ∧ comesBack d = true := by
  unfold readBack
  split
  · next back => exact ⟨c, [], rfl, back⟩
  · unfold quoteBody unitEscape
    split_ifs <;> simp_all [comesBack]

theorem flatMap_readBack_eq_iff {s : List Char} :
    s.flatMap readBack = s ↔ ∀ c ∈ s, comesBack c = true := by
  induction s with
  | nil => simp
  | cons c s ih =>
    rw [List.flatMap_cons, List.forall_mem_cons, ← ih]
    constructor
    · intro same
      obtain ⟨d, r, first, back⟩ := exists_readBack c
      rw [first, List.cons_append] at same
      obtain rfl : d = c := (List.cons.inj same).1
      rw [readBack, if_pos back] at first
      obtain rfl : [] = r := (List.cons.inj first).2
      exact ⟨back, (List.cons.inj same).2⟩
    · rintro ⟨back, same⟩
      rw [readBack, if_pos back, same]
      rfl

end Text

namespace Script

/-! ## Calls -/

/-- A bare name before the argument list of a call. -/
theorem IsBareName.shape_opener {name : String} {c : Char} {r : List Char} (bare : IsBareName name)
    (spelled : name.toList = c :: r) (w : List Char) :
    shape ⟨[], false⟩ none c (r ++ '(' :: '"' :: w) =
      some ⟨.plainName, r.length, ⟨[], false⟩⟩ := by
  obtain ⟨simple, whole, unreserved⟩ := bare
  rw [← String.ofList_toList (s := name), spelled] at simple
  obtain ⟨first, rest⟩ := isSimpleName_ofList_iff.1 simple
  rw [spelled] at whole unreserved
  have continues : ∀ d ∈ r, continuesName d = true := fun d member =>
    List.all_eq_true.1 whole d (List.mem_cons_of_mem _ member)
  have stops (p : Char → Bool) (ends : p '(' = false) : Stops p [] → Stops p ('(' :: '"' :: w) := by
    rintro - d head
    cases head
    exact ends
  have word : wordShape ⟨[], false⟩ none c (r ++ '(' :: '"' :: w) = none := by
    have le : run isWord (r ++ []) ≤ r.length := by
      rw [List.append_nil]
      exact (List.takeWhile_sublist _).length_le
    have same := takeWhile_append_of_stops (stops isWord (by decide)) le
    rw [wordShape_eq same, List.append_nil, wordShape]
    split
    · next letter =>
      rw [List.takeWhile_cons_of_pos letter] at unreserved
      rw [unreserved]
      rfl
    · rfl
  have body : bodyNameLength c (r ++ '(' :: '"' :: w) = none := by
    apply Option.eq_none_iff_forall_ne_some.2
    intro n body
    obtain ⟨-, path, rest', same, -, members⟩ := bodyNameLength_eq_some_iff.1 body
    rcases List.append_eq_append_iff.1 same with ⟨v, rfl, tail⟩ | ⟨v, rfl, tail⟩
    · cases v with
      | nil => simp [bodyMark] at tail
      | cons d v =>
        obtain rfl : '(' = d := (List.cons.inj tail).1
        exact absurd (members '(' (by simp)) (by decide)
    · cases v with
      | nil => simp [bodyMark] at tail
      | cons d v =>
        obtain rfl : '(' = d := (List.cons.inj tail).1
        exact absurd (rest '(' (by simp)) (by decide)
  have starts : startsName c = true := by
    rw [startsName, if_pos (ascii_of_letter first)]
    exact first
  have length : nameTailLength (r ++ '(' :: '"' :: w) = r.length := by
    apply nameTailLength_append_of_plain (w := [])
    · exact fun d member => (ne_of_isSimpleName simple (List.mem_cons_of_mem c member)).2
    · rw [List.append_nil, nameTailLength_eq_length continues]
    · exact nameTailLength_eq_zero_iff.2 ⟨rfl, stops continuesName (by decide) (by simp [Stops])⟩
  change codeShape ⟨[], false⟩ none c _ = _
  rw [codeShape_eq_letterShape (beginsOther_of_letter first), letterShape, word]
  dsimp only
  rw [body]
  dsimp only
  rw [nameLength_eq, if_pos starts, length]

/-- The script that calls a function with a quoted text. -/
def quotedCall (name s : String) : List Char :=
  name.toList ++ '(' :: ((quote s).toList ++ [')'])

theorem scan_quotedCall {name : String} (bare : IsBareName name) (s : String) :
    scan (quotedCall name s) = .ok
      [⟨.plainName, name, 0, false⟩, ⟨.punctuation, "(", name.length, false⟩,
        ⟨.doubleQuoted, quote s, name.length + 1, false⟩,
        ⟨.punctuation, ")", name.length + 1 + (quote s).length, false⟩] := by
  cases spelled : name.toList with
  | nil =>
    have simple := bare.simple
    rw [isSimpleName, spelled] at simple
    cases simple
  | cons c r =>
    have shaped := bare.shape_opener spelled (quoteTail s ++ [')'])
    obtain rfl : name = String.ofList (c :: r) := by
      rw [← spelled, String.ofList_toList]
    have closer : scanFrom ⟨[], false⟩ (some '"') ((c :: r).length + 1 + (quote s).length) [')'] =
        .ok [⟨.punctuation, ")", (c :: r).length + 1 + (quote s).length, false⟩] := by
      have shaped : shape ⟨[], false⟩ (some '"') ')' [] = some ⟨.punctuation, 0, ⟨[], false⟩⟩ :=
        codeShape_closer (Or.inl rfl)
      exact scanFrom_of_shape (u := []) shaped (Or.inl rfl) (by rw [scanFrom])
    have literal : scanFrom ⟨[], true⟩ (some '(') ((c :: r).length + 1)
        ((quote s).toList ++ [')']) = .ok _ :=
      scanFrom_quote (by simp [Mode.InCode]) s closer
    have opener : shape ⟨[], false⟩ (c :: r).getLast? '(' ((quote s).toList ++ [')']) =
        some ⟨.punctuation, 0, ⟨[], true⟩⟩ := codeShape_opener
    rw [String.length_ofList, scan, quotedCall, String.toList_ofList, List.cons_append]
    rw [quote_eq, String.toList_ofList] at literal opener ⊢
    apply scanFrom_of_shape shaped (Or.inl rfl)
    rw [Nat.zero_add]
    exact scanFrom_of_shape (u := []) opener (Or.inl rfl) literal

theorem slice_quotedCall (name s : String) : slice (quotedCall name s) (name.length + 1)
    (name.length + 1 + (quote s).length) = (quote s).toList := by
  have cut : quotedCall name s = (name.toList ++ ['(']) ++ ((quote s).toList ++ [')']) := by
    rw [quotedCall, List.append_assoc]
    rfl
  have before : (name.toList ++ ['(']).length = name.length + 1 := by
    rw [List.length_append, String.length_toList]
    rfl
  rw [slice, cut, ← before, List.drop_left, Nat.add_sub_cancel_left, ← String.length_toList,
    List.take_left]

/-- The value of a quoted text that stands alone as an argument. -/
theorem literalOf_quote {t : Token} (quoted : t.kind = .doubleQuoted) (s : String) :
    Argument.literalOf [t] (quote s).toList = some (String.ofList (s.toList.flatMap readBack)) := by
  have inner : Argument.inner (quote s).toList = s.toList.flatMap quoteBody := by
    rw [quote_eq, String.toList_ofList, quoteTail, Argument.inner, List.drop_one, List.tail_cons,
      List.dropLast_concat]
  have value := unescape_flatMap s.toList []
  rw [List.append_nil, unescape, List.append_nil] at value
  have isQuoted : Argument.isQuoted [t] = true := by
    simp [Argument.isQuoted, quoted]
  rw [Argument.literalOf, isQuoted, Bool.true_or, if_pos rfl, inner, value]

/-- The call that is read in such a script. -/
def calledWith (name s : String) : Call :=
  ⟨⟨name, 0, false⟩, name.length + 1 + (quote s).length + 1,
    [⟨name.length + 1, name.length + 1 + (quote s).length, quote s,
      some (String.ofList (s.toList.flatMap readBack))⟩]⟩

theorem callAt_quotedCall (name s : String) :
    callAt (quotedCall name s) ⟨.plainName, name, 0, false⟩
      [⟨.punctuation, "(", name.length, false⟩,
        ⟨.doubleQuoted, quote s, name.length + 1, false⟩,
        ⟨.punctuation, ")", name.length + 1 + (quote s).length, false⟩] =
      .ok (calledWith name s, 3) := by
  let literal : Token := ⟨.doubleQuoted, quote s, name.length + 1, false⟩
  let close : Token := ⟨.punctuation, ")", name.length + 1 + (quote s).length, false⟩
  have made : [Argument.ofTokens (quotedCall name s) literal []] = (calledWith name s).arguments := by
    have stop : ([literal].getLast?.getD literal).stop = name.length + 1 + (quote s).length := rfl
    simp only [Argument.ofTokens, stop]
    rw [slice_quotedCall name s, literalOf_quote rfl, String.ofList_toList]
    rfl
  have inside : takeClosed 0 [literal, close] = some ([literal], close) := rfl
  have split : splitArguments (quotedCall name s) 0 [] [literal] =
      .ok (calledWith name s).arguments := by
    rw [← made]
    rfl
  have stop : close.stop = (calledWith name s).stop := congrArg (_ + ·) (by decide : ")".length = 1)
  change callAt _ _ [_, literal, close] = _
  simp only [callAt, inside, split, stop]
  rfl

theorem parse_quotedCall {name : String} (bare : IsBareName name) {names : List String}
    (listed : name ∈ names) (s : String) :
    parse names (quotedCall name s) = .ok ⟨quotedCall name s, [], [calledWith name s]⟩ := by
  let callee : Token := ⟨.plainName, name, 0, false⟩
  let opener : Token := ⟨.punctuation, "(", name.length, false⟩
  let inside : List Token := [⟨.doubleQuoted, quote s, name.length + 1, false⟩,
    ⟨.punctuation, ")", name.length + 1 + (quote s).length, false⟩]
  have role : roleOf names State.initial none callee (some opener) = .call := by
    have passive : isPassive State.initial none callee (some opener) = false := by
      rw [isPassive, show isSimpleName callee.text = true from bare.simple]
      rfl
    have known : names.contains callee.text ∧ textIs "(" (some opener) :=
      ⟨List.contains_iff_mem.2 listed, rfl⟩
    rw [roleOf, passive, if_neg (by decide), if_neg (by decide), if_neg (by decide), if_pos known]
  have read : State.initial.step (quotedCall name s) names none callee (opener :: inside) =
      .ok ({ State.initial with calls := [calledWith name s] }, 3) := by
    have value : keyRole State.initial callee (some opener) = .value := rfl
    have settled : State.initial.settle none callee = State.initial := rfl
    rw [step_plainName settled value rfl, State.name, List.head?_cons, role]
    dsimp only
    rw [callAt_quotedCall name s]
    rfl
  have ran : State.initial.run (quotedCall name s) names none (callee :: opener :: inside) =
      .ok { State.initial with calls := [calledWith name s] } := by
    rw [State.run, read]
    simp only [inside, List.drop_succ_cons, List.drop_nil, State.run]
    rfl
  have significant_eq : significant (callee :: opener :: inside) = callee :: opener :: inside := rfl
  simp only [parse, scan_quotedCall bare]
  rw [significant_eq, ran]
  rfl

/-! ## Helpers -/

theorem Helper.isBareName (h : Helper) : IsBareName h.name := by
  cases h <;> decide +kernel

/-- A helper's call of a quoted text is read as one call with that literal as its one argument. The
value is what is read back for the characters of the text, and so the text if all of them come
back. -/
theorem parse_helper_quote (h : Helper) (s : String) :
    ∃ value, parse helperNames (h.name ++ "(" ++ quote s ++ ")").toList =
      .ok ⟨(h.name ++ "(" ++ quote s ++ ")").toList, [],
        [⟨⟨h.name, 0, false⟩, h.name.length + 1 + (quote s).length + 1,
          [⟨h.name.length + 1, h.name.length + 1 + (quote s).length, quote s, some value⟩]⟩]⟩ ∧
      value.toList = s.toList.flatMap readBack ∧
      (value = s ↔ ∀ c ∈ s.toList, comesBack c = true) := by
  have listed : h.name ∈ helperNames := by
    cases h <;> decide
  have source : (h.name ++ "(" ++ quote s ++ ")").toList = quotedCall h.name s := by
    simp [quotedCall]
  have value : (String.ofList (s.toList.flatMap readBack)).toList = s.toList.flatMap readBack :=
    String.toList_ofList
  have back : String.ofList (s.toList.flatMap readBack) = s ↔
      ∀ c ∈ s.toList, comesBack c = true := by
    rw [← flatMap_readBack_eq_iff, ← String.toList_inj, value]
  rw [source]
  exact ⟨_, parse_quotedCall h.isBareName listed s, value, back⟩

/-- A letter outside ASCII does not come back: the digits of its escape are read as they stand. -/
theorem parse_helper_quote_fails : ¬∃ tree call argument,
    parse helperNames ("asset_path(" ++ quote "é" ++ ")").toList = .ok tree ∧
      tree.calls = [call] ∧ call.arguments = [argument] ∧ argument.literal = some "é" := by
  have read : parse helperNames ("asset_path(" ++ quote "é" ++ ")").toList =
      .ok ⟨("asset_path(" ++ quote "é" ++ ")").toList, [],
        [⟨⟨"asset_path", 0, false⟩, 20, [⟨11, 19, quote "é", some "u00e9"⟩]⟩]⟩ := by
    decide +kernel
  rintro ⟨tree, call, argument, parsed, one, alone, literal⟩
  rw [read] at parsed
  cases parsed
  cases one
  cases alone
  exact absurd literal (by decide)

end Script

end Folio
