import Folio.Proofs.Asset.Fingerprint
import Folio.Proofs.Script.Literal
import Folio.Proofs.Script.Splice

/-!
# Constants of references

A reference to a route helper is replaced by a literal that stands for the route
(`literalUnits_quote`), wherever an injection finds one (`inject_ok`), and it finds one in a script
that is a bare name (`inject_bareName`).
-/

namespace Folio

open Text

/-! ## What a literal stands for -/

namespace Text

/-- The sixteen-bit units of a character. -/
def codeUnits (c : Char) : List Nat :=
  if c.toNat < 0x10000 then [c.toNat]
  else [0xD800 + (c.toNat - 0x10000) / 0x400, 0xDC00 + (c.toNat - 0x10000) % 0x400]

/-- The unit that a backslash makes of the next character, if that is an escape of its own. -/
def singleEscape (c : Char) : Option Nat :=
  if c = '"' ∨ c = '\\' ∨ c = '/' then some c.toNat
  else if c = 'n' then some 10
  else if c = 'r' then some 13
  else if c = 't' then some 9
  else if c = 'b' then some 8
  else if c = 'f' then some 12
  else none

/-- The units that a double-quoted literal stands for from some place on. -/
def unitsFrom : List Char → Option (List Nat)
  | '\\' :: 'u' :: a :: b :: c :: d :: r =>
    if [a, b, c, d].all isHexDigit then (unitsFrom r).map (hexValue [a, b, c, d] :: ·) else none
  | '\\' :: c :: r => (singleEscape c).bind fun unit => (unitsFrom r).map (unit :: ·)
  | c :: r =>
    if c = '"' then if r.isEmpty then some [] else none
    else if c = '\\' ∨ c = '\n' ∨ c = '\r' then none
    else (unitsFrom r).map (codeUnits c ++ ·)
  | [] => none

/-- The units of the string that a double-quoted literal of a script or of JSON stands for. -/
def literalUnits (literal : String) : Option (List Nat) :=
  match literal.toList with
  | '"' :: r => unitsFrom r
  | _ => none

theorem hexValue_hexDigits {n : Nat} (small : n < 0x10000) : hexValue (hexDigits 4 n) = n := by
  have digit : ∀ d : Fin 16, hexValue [hexDigit d] = d := by decide
  have value (d : Nat) (small : d < 16) := digit ⟨d, small⟩
  simp only [hexValue, hexDigits, List.foldl_cons, List.foldl_nil, List.nil_append,
    List.cons_append, Nat.zero_mul, Nat.zero_add] at value ⊢
  rw [value _ (Nat.mod_lt _ (by decide)), value _ (Nat.mod_lt _ (by decide)),
    value _ (Nat.mod_lt _ (by decide)), value _ (Nat.mod_lt _ (by decide))]
  omega

theorem unitsFrom_unitEscape {n : Nat} (small : n < 0x10000) (r : List Char) :
    unitsFrom (unitEscape n ++ r) = (unitsFrom r).map (n :: ·) := by
  have digits : ∀ d ∈ hexDigits 4 n, isHexDigit d = true := fun d member =>
    Digest.isHexDigit_of_mem member
  have value := hexValue_hexDigits small
  obtain ⟨a, b, c, d, spelled⟩ : ∃ a b c d, hexDigits 4 n = [a, b, c, d] :=
    ⟨_, _, _, _, rfl⟩
  rw [spelled] at digits value
  rw [unitEscape, spelled]
  simp only [List.cons_append, List.nil_append, unitsFrom, List.all_eq_true.2 digits, value, if_true]

theorem unitsFrom_escape {c : Char} {unit : Nat} (single : singleEscape c = some unit)
    (r : List Char) : unitsFrom ('\\' :: c :: r) = (unitsFrom r).map (unit :: ·) := by
  have other : c ≠ 'u' := by
    rintro rfl
    simp [singleEscape] at single
  rw [unitsFrom, single, Option.bind_some]
  rintro _ _ _ _ _ same -
  exact other same

theorem unitsFrom_plain {c : Char} (plain : c ≠ '"' ∧ c ≠ '\\' ∧ c ≠ '\n' ∧ c ≠ '\r')
    (r : List Char) : unitsFrom (c :: r) = (unitsFrom r).map (codeUnits c ++ ·) := by
  obtain ⟨quote, slash, line, back⟩ := plain
  rw [unitsFrom, if_neg quote, if_neg (by simp [slash, line, back])]
  · rintro _ _ _ _ _ same -
    exact slash same
  · rintro _ _ same -
    exact slash same

theorem unitsFrom_quoteBody (c : Char) (r : List Char) :
    unitsFrom (quoteBody c ++ r) = (unitsFrom r).map (codeUnits c ++ ·) := by
  have named {d : Char} {n : Nat} (same : c.toNat = n) (named : d.toNat = n) : c = d :=
    Char.toNat_inj.1 (same.trans named.symm)
  have below : c.toNat < 0x110000 := by
    rcases c.valid with low | ⟨-, high⟩
    · exact Nat.lt_trans low (by decide)
    · exact high
  unfold quoteBody
  split
  · next same => subst same; exact unitsFrom_escape rfl r
  split
  · next same => subst same; exact unitsFrom_escape rfl r
  split
  · next same => subst same; exact unitsFrom_escape rfl r
  split
  · next same => subst same; exact unitsFrom_escape rfl r
  split
  · next same => subst same; exact unitsFrom_escape rfl r
  split
  · next same =>
    obtain rfl : c = '\x08' := named same rfl
    exact unitsFrom_escape rfl r
  split
  · next same =>
    obtain rfl : c = '\x0c' := named same rfl
    exact unitsFrom_escape rfl r
  split
  · exact unitsFrom_plain ⟨‹_›, ‹_›, ‹_›, ‹_›⟩ r
  split
  · next small =>
    rw [unitsFrom_unitEscape small, codeUnits, if_pos small]
    rfl
  · next large =>
    rw [List.append_assoc, unitsFrom_unitEscape (by omega), unitsFrom_unitEscape (by omega),
      Option.map_map, codeUnits, if_neg large]
    rfl

theorem literalUnits_quote (s : String) :
    literalUnits (quote s) = some (s.toList.flatMap codeUnits) := by
  have body (characters : List Char) : unitsFrom (characters.flatMap quoteBody ++ ['"']) =
      some (characters.flatMap codeUnits) := by
    induction characters with
    | nil => rfl
    | cons c characters ih =>
      rw [List.flatMap_cons, List.append_assoc, unitsFrom_quoteBody, ih]
      rfl
  rw [literalUnits, quote, String.toList_ofList]
  exact body s.toList

end Text

namespace Script

/-! ## Bare names -/

/-- Whether lexer and parser take a text for one name: it is made of word characters and `$` that
names go on with, and begins with no reserved word that a `$` ends. -/
structure IsBareName (name : String) : Prop where
  simple : isSimpleName name = true
  whole : name.toList.all continuesName = true
  unreserved : wordKind none (String.ofList (name.toList.takeWhile isWord)) = none

instance (name : String) : Decidable (IsBareName name) :=
  decidable_of_iff (isSimpleName name = true ∧ name.toList.all continuesName = true ∧
      wordKind none (String.ofList (name.toList.takeWhile isWord)) = none)
    ⟨fun ⟨simple, whole, unreserved⟩ => ⟨simple, whole, unreserved⟩,
      fun bare => ⟨bare.simple, bare.whole, bare.unreserved⟩⟩

/-- No reserved word is the name of a path. -/
theorem wordKind_eq_none_of_ends (previous : Option Char) {word : String}
    (ends : Asset.endsWith word "_path" = true) : wordKind previous word = none := by
  have other : ∀ words ∈ [operatorWords, contextualWords, keywords, declarationWords, reservedWords,
      constantWords, builtinWords, exceptionWords], word ∉ words := by
    intro words listed member
    have none : ∀ words ∈ [operatorWords, contextualWords, keywords, declarationWords, reservedWords,
        constantWords, builtinWords, exceptionWords], ∀ w ∈ words,
        Asset.endsWith w "_path" = false := by decide +kernel
    rw [none words listed word member] at ends
    cases ends
  simp only [List.forall_mem_cons] at other
  obtain ⟨operator, contextual, keyword, declaration, reserved, constant, builtin, exception, -⟩ :=
    other
  simp only [wordKind, operator, contextual, keyword, declaration, reserved, constant, builtin,
    exception, false_and, false_or, if_false]

theorem run_eq_length {p : Char → Bool} {s : List Char} (all : ∀ c ∈ s, p c = true) :
    run p s = s.length := by
  rw [run, List.takeWhile_eq_self_iff.2 all]

theorem nameTailLength_eq_length {s : List Char} (all : ∀ c ∈ s, continuesName c = true) :
    nameTailLength s = s.length := by
  induction s with
  | nil => rfl
  | cons c r ih =>
    obtain ⟨first, rest⟩ := List.forall_mem_cons.1 all
    have plain : isEscape (c :: r) = false := by
      refine Bool.eq_false_iff.2 fun escape => ?_
      obtain ⟨_, _, _, _, _, same, -⟩ := isEscape_eq_true_iff.1 escape
      rw [(List.cons.inj same).1] at first
      exact absurd first (by decide)
    rw [nameTailLength_cons plain, if_pos first, ih rest, List.length_cons]

namespace IsBareName

variable {name : String} {c : Char} {r : List Char}

theorem shape_eq (bare : IsBareName name) (spelled : name.toList = c :: r) :
    shape ⟨[], false⟩ none c r = some ⟨.plainName, r.length, ⟨[], false⟩⟩ := by
  obtain ⟨simple, whole, unreserved⟩ := bare
  rw [isSimpleName, spelled] at simple
  obtain ⟨first, rest⟩ := Bool.and_eq_true_iff.1 simple
  rw [spelled] at whole unreserved
  have continues : ∀ d ∈ r, continuesName d = true := fun d member =>
    List.all_eq_true.1 whole d (List.mem_cons_of_mem _ member)
  have word : wordShape ⟨[], false⟩ none c r = none := by
    unfold wordShape
    split
    · next letter =>
      rw [List.takeWhile_cons_of_pos letter] at unreserved
      rw [unreserved]
      rfl
    · rfl
  have body : bodyNameLength c r = none := by
    have path : ∀ d ∈ r, (isWord d || d == '?' || d == '.' || d == '$') = true := fun d member => by
      have kind := List.all_eq_true.1 rest d member
      simp only [Bool.or_eq_true] at kind ⊢
      exact kind.elim (fun word => Or.inl (Or.inl (Or.inl word))) Or.inr
    rw [bodyNameLength, if_pos first]
    dsimp only
    rw [run_eq_length path, List.drop_length]
    rfl
  have starts : startsName c = true := by
    rw [startsName, if_pos (ascii_of_letter first)]
    exact first
  change codeShape ⟨[], false⟩ none c r = _
  rw [codeShape_eq_letterShape (beginsOther_of_letter first), letterShape, word]
  dsimp only
  rw [body]
  dsimp only
  rw [nameLength_eq, if_pos starts, nameTailLength_eq_length continues]

theorem scan_eq (bare : IsBareName name) :
    scan name.toList = .ok [⟨.plainName, name, 0, false⟩] := by
  cases spelled : name.toList with
  | nil =>
    have simple := bare.simple
    rw [isSimpleName, spelled] at simple
    cases simple
  | cons c r =>
    rw [scan, scanFrom, bare.shape_eq spelled]
    simp only [List.take_length, List.drop_length, scanFrom]
    rw [← spelled, String.ofList_toList]

theorem of_ends (simple : isSimpleName name = true) (whole : name.toList.all continuesName = true)
    (plain : '$' ∉ name.toList) (ends : Asset.endsWith name "_path" = true) : IsBareName name := by
  refine ⟨simple, whole, ?_⟩
  have words : ∀ c ∈ name.toList, isWord c = true := by
    intro c member
    have other : c ≠ '$' := ne_of_mem_of_not_mem member plain
    unfold isSimpleName at simple
    cases spelled : name.toList with
    | nil =>
      rw [spelled] at member
      cases member
    | cons d r =>
      rw [spelled] at simple member
      simp only [Bool.and_eq_true, Bool.or_eq_true, beq_iff_eq, List.all_eq_true] at simple
      rcases List.mem_cons.1 member with rfl | later
      · rcases simple.1 with (letter | rfl) | dollar
        · unfold isWord
          rw [if_pos (ascii_of_letter (by simp [letter]))]
          simp [letter]
        · rfl
        · exact absurd dollar other
      · exact (simple.2 c later).resolve_right other
  rw [List.takeWhile_eq_self_iff.2 words, String.ofList_toList]
  exact wordKind_eq_none_of_ends none ends

theorem parse_eq (bare : IsBareName name) (names : List String) :
    parse names name.toList = .ok ⟨name.toList, [⟨name, 0, false⟩], []⟩ := by
  let t : Token := ⟨.plainName, name, 0, false⟩
  have role : roleOf names State.initial none t none = .reference := by
    have passive : isPassive State.initial none t none = false := by
      rw [isPassive, show isSimpleName t.text = true from bare.simple]
      rfl
    rw [roleOf, passive]
    simp [startsClassMember, State.initial, Scope.opened, textIs]
  have named : State.initial.name name.toList names none t [] =
      .ok ({ State.initial with references := [⟨name, 0, false⟩] }, 0) := by
    rw [State.name, List.head?_nil, role]
    rfl
  have read : State.initial.step name.toList names none t [] =
      .ok ({ State.initial with references := [⟨name, 0, false⟩] }, 0) := by
    have settled : State.initial.settle none t = State.initial := rfl
    have value : keyRole State.initial t none = .value := rfl
    rw [step_plainName settled value rfl, named]
    rfl
  have ran : State.initial.run name.toList names none [t] =
      .ok { State.initial with references := [⟨name, 0, false⟩] } := by
    rw [State.run, read]
    simp only [List.drop_nil, State.run]
    rfl
  have significant_eq : significant [t] = [t] := rfl
  simp only [parse, bare.scan_eq]
  rw [significant_eq, ran]
  rfl

end IsBareName

theorem inject_bareName {name : String} (bare : IsBareName name) (routes : List (String × String))
    (resolve : String → String) {path : String} (helper : routes.lookup name = some path) :
    inject routes resolve name = .ok ⟨quote path, []⟩ := by
  have ran := run_injectWith routes (askNoting resolve) (bare.parse_eq helperNames)
  have text : Tree.substitute (answered routes [.reference ⟨name, 0, false⟩] [])
      ⟨name.toList, [⟨name, 0, false⟩], []⟩ = (quote path).toList := by
    simp [Tree.substitute, answered, helper, editsFor, Edit.ofText, Edit.ofNode, Edit.ofReference,
      Edit.schedule, render, splice, Reference.stop, String.length_toList]
  have walk : Tree.walk ⟨name.toList, [⟨name, 0, false⟩], []⟩ = [.reference ⟨name, 0, false⟩] := by
    simp [Tree.walk, Node.walk]
  have done : (injectWith routes (askNoting resolve) name).run.run [] =
      (.ok (String.ofList (Tree.substitute (answered routes [.reference ⟨name, 0, false⟩] [])
        ⟨name.toList, [⟨name, 0, false⟩], []⟩)), []) := by
    rw [ran, walk]
    rfl
  rw [text, String.ofList_toList] at done
  unfold inject
  rw [done]
  rfl

/-! ## References in any script -/

theorem text_of_mem_answered {routes : List (String × String)} {nodes : List Node}
    {answers : List String} {r : Reference} {text : Option String}
    (member : (.reference r, text) ∈ answered routes nodes answers) :
    text = (routes.lookup r.name).map quote := by
  induction nodes generalizing answers with
  | nil => cases member
  | cons n nodes ih =>
    cases n with
    | call c =>
      rcases List.mem_cons.1 member with same | later
      · cases same
      · exact ih later
    | reference r' =>
      rcases List.mem_cons.1 member with same | later
      · cases same
        rfl
      · exact ih later

/-- What an injection that succeeds has made of a script. -/
theorem inject_ok {routes : List (String × String)} {resolve : String → String} {source : String}
    {injected : Injected} (done : inject routes resolve source = .ok injected) :
    ∃ tree answers output, parse helperNames source.toList = .ok tree ∧
      injected.output = String.ofList output ∧
      Spliced 0 (answered routes tree.walk answers) source.toList output := by
  unfold inject at done
  cases parsed : parse helperNames source.toList with
  | error defect =>
    have failed : (injectWith routes (askNoting resolve) source).run.run [] = (.error defect, []) := by
      unfold injectWith
      rw [parsed]
      rfl
    rw [failed] at done
    cases done
  | ok tree =>
    obtain ⟨same, -, -, separate, -⟩ := parse_placed parsed
    let answers := ((asked tree.calls).mapM (askNoting resolve)).run []
    have ran : (injectWith routes (askNoting resolve) source).run.run [] =
        ((misuse tree.calls).elim (.ok (String.ofList
          (tree.substitute (answered routes tree.walk answers.1)))) .error, answers.2) := by
      rw [run_injectWith routes (askNoting resolve) parsed]
      rfl
    rw [ran] at done
    cases proper : misuse tree.calls with
    | some defect =>
      rw [proper] at done
      cases done
    | none =>
      rw [proper] at done
      cases done
      refine ⟨tree, answers.1, _, rfl, rfl, ?_⟩
      rw [Tree.substitute, same]
      exact render_spliced (by rwa [answered_fst])

end Script

end Folio
