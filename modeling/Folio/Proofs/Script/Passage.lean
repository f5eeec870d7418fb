import Folio.Proofs.Script.Reading

/-!
# The pass over expressions

`Expression.reads` is the induction over syntax trees: the pass goes over an expression and reports
its occurrences as it meets them.
-/

namespace Folio.Script

@[simp] theorem textIs_some (text : String) (t : Token) :
    textIs text (some t) = (t.text == text) :=
  rfl

theorem Continues.cons {source : List Char} {t : Token} {rest : List Token} (arrow : t.text ≠ "=>")
    (list : t.text ≠ "(") : Continues source (t :: rest) :=
  ⟨by simpa using arrow, fun isList => absurd (by simpa using isList) list⟩

theorem Among.of_eq {names : List String} (references : List Reference) :
    Among names references [] references :=
  ⟨List.Sublist.refl references, fun _ => ⟨rfl, rfl⟩⟩

section Tokens

variable {source : List Char} {names : List String} {place : Place} {start : Start} {s : State}
  {p : Token} {rest : List Token}

theorem Ready.of_found {start' : Start} {p' : Token} (ready : Ready place start p s)
    (leads : start'.Leads p') (noMethod : start' ≠ .method) (references : List Reference)
    (calls : List Call) : Ready place start' p' (s.found references calls) :=
  ⟨ready.toAt.found references calls, by simp [State.found, noMethod], leads⟩

theorem Ready.params_eq (ready : Ready place start p s) (noMethod : start ≠ .method) :
    s.pendingParams = false := by
  have params := ready.params
  cases pending : s.pendingParams with
  | false => rfl
  | true => exact absurd (params.1 pending) noMethod

theorem Operator.leads (o : Operator) : Start.fresh.Leads o.token := by
  refine Or.inl ⟨o.operator, o.binary.2, ?_⟩
  have word : o.token.text ≠ "import" :=
    o.lexical.text_ne .keyword (by decide +kernel) (by simp [o.operator])
  have word' : o.token.text ≠ "as" :=
    o.lexical.text_ne .keyword (by decide +kernel) (by simp [o.operator])
  simp [word, word']

theorem Sign.leads (colon : Sign ":") : Start.colon.Leads colon.token :=
  ⟨colon.operator, colon.same⟩

theorem Operator.continues (o : Operator) : Continues source (o.token :: rest) :=
  .cons (o.lexical.text_ne .punctuation (by decide +kernel) (by simp [o.operator]))
    (o.lexical.text_ne .punctuation (by decide +kernel) (by simp [o.operator]))

theorem Operator.noList (o : Operator) : textIs "(" (o.token :: rest).head? = false := by
  have ne : o.token.text ≠ "(" :=
    o.lexical.text_ne .punctuation (by decide +kernel) (by simp [o.operator])
  simpa using ne

theorem Mark.continues {text : String} (m : Mark text) (arrow : text ≠ "=>") (list : text ≠ "(") :
    Continues source (m.token :: rest) :=
  .cons (by rwa [m.same]) (by rwa [m.same])

theorem Mark.noList {text : String} (m : Mark text) (list : text ≠ "(") :
    textIs "(" (m.token :: rest).head? = false := by
  simpa [m.same] using list

theorem Sign.continues {text : String} (m : Sign text) (arrow : text ≠ "=>") (list : text ≠ "(") :
    Continues source (m.token :: rest) :=
  .cons (by rwa [m.same]) (by rwa [m.same])

theorem Sign.noList {text : String} (m : Sign text) (list : text ≠ "(") :
    textIs "(" (m.token :: rest).head? = false := by
  simpa [m.same] using list

/-! ## Leaves -/

theorem Name.reads (n : Name) (at_ : At place s) (params : s.pendingParams = false)
    (inert : Inert (some p)) (continues : Continues source rest) :
    Reads source names (Occurrence.reportedAt place n.token).toList s (some p) [n.token] rest := by
  by_cases called : names.contains n.token.text = true ∧ textIs "(" rest.head? = true
  · obtain ⟨taken, callable⟩ := continues.callable called.2
    obtain ⟨call, found⟩ := callable n.token
    rcases step_callee at_ params inert n.plain continues.noArrow called found
      with ⟨step, none⟩ | step
    · rw [none]
      exact (ReadsAll.cons step (.nil params)).reads
    · refine ⟨[], [call], taken, (n.token :: rest)[taken]?, ⟨List.nil_sublist _, ?_⟩, ?_,
        Or.inr ⟨called.2, callable⟩, ?_⟩
      · rintro rfl
        cases called.1
      · rintro rfl
        cases called.1
      · rw [List.singleton_append, State.run, step]
  · exact ReadsAll.reads ⟨_, [], some n.token, .of_eq _,
      run_cons (step_name at_ params inert n.plain continues.noArrow called)⟩

theorem Literal.reads (l : Literal) (at_ : At place s) (params : s.pendingParams = false)
    (previous : Option Token) : ReadsAll source names [] s previous l.tokens rest := by
  have leaf : ∀ t ∈ l.tokens, (t.opens = false ∧ t.closes = false) ∧
      t.kind ∈ [Kind.number, .doubleQuoted, .singleQuoted, .templateText] :=
    fun t member => ⟨Literal.not_bracket member, Literal.kind_of_mem member⟩
  generalize l.tokens = tokens at leaf
  induction tokens generalizing previous with
  | nil => exact .nil params
  | cons t tokens ih =>
    obtain ⟨bracket, kind⟩ := leaf t (by simp)
    have other (k : Kind) (no : k ∉ [Kind.number, .doubleQuoted, .singleQuoted, .templateText]) :
        t.kind ≠ k := fun same => no (same ▸ kind)
    have code : t.kind ∉ [Kind.substitution, .declaration, .plainName] := by
      simp [other .substitution (by decide), other .declaration (by decide),
        other .plainName (by decide)]
    have comma : t.isPunctuation "," = false := by
      simp [Token.isPunctuation, other .punctuation (by decide)]
    exact .cons (step_quiet at_.noKey at_.settled bracket (Or.inl comma) code
      fun operator => absurd operator (other .operator (by decide)))
      (ih (some t) fun t' member => leaf t' (List.mem_cons_of_mem t member))

/-- A member name is passed over. -/
theorem step_member (at_ : At place s) (dot : Mark ".") (n : Name) :
    s.step source names (some dot.token) n.token rest = .ok (s, 0) := by
  have role : roleOf names s (some dot.token) n.token rest.head? = .passive := by
    simp [roleOf, isPassive, isMember, punctuationIs, Token.isPunctuation, dot.punctuation, dot.same]
  rw [step_plainName (settle_eq_self at_.settled _ _) (keyRole_of_noKey at_.noKey _ _) n.plain, State.name, role]
  dsimp only
  rw [State.modifyScope_eq_self (Scope.pastKey_eq_self at_.noKey)]

theorem Mark.step_quiet {text : String} (m : Mark text) (at_ : At place s)
    (opens : Token.closerOf text = none) (closes : Token.isCloserText text = false)
    (comma : text ≠ "," ∨ s.scope.kind ≠ .object) {previous : Option Token} :
    s.step source names previous m.token rest = .ok (s, 0) :=
  Script.step_quiet at_.noKey at_.settled (m.not_bracket opens closes)
    (comma.imp_left fun ne => by simp [Token.isPunctuation, m.same, ne]) (by simp [m.punctuation])
    (by simp [m.punctuation])

theorem Operator.step_quiet (o : Operator) (at_ : At place s) {previous : Option Token} :
    s.step source names previous o.token rest = .ok (s, 0) :=
  Script.step_quiet at_.noKey at_.settled (o.lexical.not_bracket (by simp [o.operator]))
    (Or.inl (by simp [Token.isPunctuation, o.operator])) (by simp [o.operator]) fun _ => o.binary

/-- An argument list after tokens that a call may end: it is read, or the call takes it. -/
theorem Reads.append_list {reported reported' : List Reference} {previous : Option Token}
    {tokens list : List Token}
    (reads : Reads source names reported s previous tokens (list ++ rest)) (some : list ≠ [])
    (callable : ∀ t, ∃ call, callAt source t (list ++ rest) = .ok (call, list.length))
    (later : ∀ references calls last,
      ReadsAll source names reported' (s.found references calls) last list rest) :
    ReadsAll source names (reported ++ reported') s previous (tokens ++ list) rest := by
  obtain ⟨references, calls, taken, last, among, none, skips, ran⟩ := reads
  rcases skips with rfl | ⟨-, found⟩
  · exact ReadsAll.append_all ⟨references, calls, last, among, ran⟩ later
  · obtain ⟨q, more, -⟩ := List.exists_cons_of_ne_nil some
    obtain ⟨call, found⟩ := found q
    obtain ⟨call', found'⟩ := callable q
    have length : taken = list.length := by
      rw [found] at found'
      injection found' with same
      exact (Prod.mk.inj same).2
    have positive := List.length_pos_iff.2 some
    refine ⟨references, calls, last, ⟨among.1.trans (List.sublist_append_left _ _), fun empty => ?_⟩,
      ?_⟩
    · have := none empty
      omega
    · rw [List.append_assoc, ran, length, List.drop_left]

end Tokens

/-! ## Between braces -/

/-- Whether the pass is between braces, before a property. -/
structure Braces.Open (braces : Braces) (s : State) : Prop where
  kind : s.scope.kind = braces.kind
  key : s.scope.expectsKey = true ↔ braces = .object
  conditionals : s.scope.conditionals = 0
  settled : s.scope.declaring = false
  noClass : s.pendingClass = false
  params : s.pendingParams = false

/-- A property ends before a comma or before the closing brace. -/
def EndsProperty (rest : List Token) : Prop :=
  ∃ t more, rest = t :: more ∧ (t.text = "," ∨ t.text = "\x7d")

section Properties

variable {source : List Char} {names : List String} {braces : Braces} {s : State} {p : Token}
  {previous : Option Token} {rest : List Token}

theorem EndsProperty.continues (ends : EndsProperty rest) : Continues source rest := by
  obtain ⟨t, more, rfl, text | text⟩ := ends <;> exact .cons (by simp [text]) (by simp [text])

theorem EndsProperty.noList (ends : EndsProperty rest) : textIs "(" rest.head? = false := by
  obtain ⟨t, more, rfl, text | text⟩ := ends <;> simp [text]

/-- The state in which no key is due between braces. -/
def State.pastKey (s : State) : State :=
  s.modifyScope ({ · with expectsKey := false })

theorem Braces.Open.pastKey (within : braces.Open s) : At braces.place s.pastKey := by
  refine ⟨?_, rfl, within.settled, within.noClass⟩
  have kind : s.pastKey.scope.kind = braces.kind := within.kind
  cases braces with
  | object => exact Or.inr (Or.inr kind)
  | block => exact ⟨kind, within.conditionals⟩
  | pattern => exact Or.inl kind

theorem Braces.Open.pastKey_eq (within : braces.Open s) (noObject : braces ≠ .object) :
    s.pastKey = s := by
  refine State.modifyScope_eq_self ?_
  have key : s.scope.expectsKey = false := by
    cases expects : s.scope.expectsKey with
    | false => rfl
    | true => exact absurd (within.key.1 expects) noObject
  rw [← key]

theorem Braces.Open.at_ (within : braces.Open s) (noObject : braces ≠ .object) :
    At braces.place s :=
  within.pastKey_eq noObject ▸ within.pastKey

theorem Braces.Open.found (within : braces.Open s) (references : List Reference)
    (calls : List Call) : braces.Open (s.found references calls) :=
  ⟨within.kind, within.key, within.conditionals, within.settled, within.noClass, rfl⟩

/-- A comma leads to the next property. -/
theorem Braces.Open.step_comma (within : braces.Open s) (comma : Mark ",") :
    s.pastKey.step source names previous comma.token rest = .ok (s, 0) := by
  by_cases object : braces = .object
  · have isComma : comma.token.isPunctuation "," = true := by
      simp [Token.isPunctuation, comma.punctuation, comma.same]
    obtain ⟨opens, closes⟩ := comma.not_bracket rfl rfl
    have due : s.pastKey.modifyScope ({ · with expectsKey := true }) = s := by
      obtain ⟨⟨kind, expectsKey, conditionals, declaring, before⟩, outer, pendingClass,
        pendingParams, references, calls⟩ := s
      cases within.key.2 object
      rfl
    have kind : s.pastKey.scope.kind = .object := by
      rw [object] at within
      exact within.kind
    unfold State.step
    rw [settle_eq_self within.pastKey.settled]
    dsimp only
    rw [if_neg (by simp [comma.punctuation]), keyRole_of_noKey within.pastKey.noKey]
    dsimp only
    rw [if_neg (by simp [opens]), if_neg (by simp [closes]), if_pos ⟨isComma, kind⟩, due]
  · rw [within.pastKey_eq object]
    refine comma.step_quiet (within.at_ object) rfl rfl (Or.inr ?_)
    rw [within.kind]
    cases braces <;> simp_all [Braces.kind]

/-- The pass goes over a property and expects no key after it. -/
def ReadsProperty (source : List Char) (names : List String) (reported : List Reference)
    (s : State) (previous : Option Token) (tokens rest : List Token) : Prop :=
  ∃ references calls last, Among names references calls reported ∧
    s.run source names previous (tokens ++ rest) =
      (s.found references calls).pastKey.run source names last rest

theorem ReadsAll.property {reported : List Reference} {tokens : List Token}
    (all : ReadsAll source names reported s previous tokens rest) (within : braces.Open s)
    (noObject : braces ≠ .object) : ReadsProperty source names reported s previous tokens rest := by
  obtain ⟨references, calls, last, among, ran⟩ := all
  refine ⟨references, calls, last, among, ?_⟩
  rw [ran, (within.found references calls).pastKey_eq noObject]

theorem ReadsProperty.cons {reported : List Reference} {t : Token} {tokens : List Token}
    (step : s.step source names previous t (tokens ++ rest) = .ok (s.pastKey, 0))
    (all : ReadsAll source names reported s.pastKey (some t) tokens rest) :
    ReadsProperty source names reported s previous (t :: tokens) rest := by
  obtain ⟨references, calls, last, among, ran⟩ := all
  exact ⟨references, calls, last, among, (run_cons step).trans ran⟩

/-- A key of an object literal, before a colon. -/
theorem Braces.Open.step_key (within : Braces.object.Open s) (k : Key) {t : Token}
    (text : t.text = ":") :
    s.step source names previous k.token (t :: rest) = .ok (s.pastKey, 0) := by
  have expects : s.scope.expectsKey = true := within.key.2 rfl
  have role : keyRole s k.token (t :: rest).head? = .key false := by
    simp [keyRole, textIn, text, within.kind, Braces.kind, expects, k.not_punctuation]
  unfold State.step
  rw [settle_eq_self within.settled]
  dsimp only
  rw [if_neg k.not_substitution, role]
  obtain ⟨scope, outer, pendingClass, pendingParams, references, calls⟩ := s
  cases within.params
  rfl

/-- A shorthand of an object literal. -/
theorem Braces.Open.step_shorthand (within : Braces.object.Open s) (lead : Inert (some p)) (n : Name)
    (ends : EndsProperty rest) :
    s.step source names (some p) n.token rest =
      .ok ((s.found (Occurrence.reported (.shorthand .object n)).toList []).pastKey, 0) := by
  obtain ⟨t, more, rfl, text⟩ := ends
  have expects : s.scope.expectsKey = true := within.key.2 rfl
  have kind : s.scope.kind = .object := within.kind
  have role : keyRole s n.token (some t) = .value := by
    rcases text with text | text <;> simp [keyRole, textIn, text, kind, expects]
  obtain ⟨member, declaration, word⟩ := lead
  have passive : isPassive s (some p) n.token (some t) = !isSimpleName n.token.text := by
    rcases text with text | text <;>
      simp only [isPassive, member, declaration, word, within.settled, kind, textIs_some, text] <;>
      cases isSimpleName n.token.text <;> rfl
  have nameRole : roleOf names s (some p) n.token (some t) =
      if isSimpleName n.token.text = true then .shorthand else .passive := by
    rcases text with text | text <;>
      simp [roleOf, passive, startsClassMember, kind, expects, textIn, text] <;>
      cases isSimpleName n.token.text <;> rfl
  have past : ∀ u : State, u.scope.kind = .object → u.modifyScope Scope.pastKey = u.pastKey := by
    intro u kind
    simp [State.modifyScope, State.pastKey, Scope.pastKey, kind]
  rw [step_plainName (settle_eq_self within.settled _ _) role n.plain, State.name, List.head?_cons, nameRole]
  obtain ⟨scope, outer, pendingClass, pendingParams, references, calls⟩ := s
  cases within.params
  cases simple : isSimpleName n.token.text with
  | true =>
    simp only [if_true, Occurrence.reported, simple]
    exact congrArg (fun u => Except.ok (u, 0)) (past _ kind)
  | false =>
    simp only [Bool.false_eq_true, if_false, Occurrence.reported, simple]
    exact congrArg (fun u => Except.ok (u, 0)) (past _ kind)

/-- A colon between braces waits for no conditional. -/
theorem Braces.Open.step_colon (within : braces.Open s) (colon : Sign ":") :
    s.pastKey.step source names previous colon.token rest = .ok (s.pastKey, 0) := by
  rw [Script.step_colon colon within.pastKey.noKey within.pastKey.settled,
    State.modifyScope_eq_self ?_]
  have zero : s.pastKey.scope.conditionals = 0 := within.conditionals
  rw [zero, Nat.zero_sub, ← zero]

theorem Braces.Open.step_bareColon (within : braces.Open s) (noObject : braces ≠ .object)
    (colon : Sign ":") : s.step source names previous colon.token rest = .ok (s, 0) := by
  have step : s.pastKey.step source names previous colon.token rest = .ok (s.pastKey, 0) :=
    within.step_colon colon
  rwa [within.pastKey_eq noObject] at step

/-- A key between braces that are no object literal's. -/
theorem Braces.Open.step_bareKey (within : braces.Open s) (noObject : braces ≠ .object)
    (inert : Inert (some p)) (k : Key) (word : k.token.kind ≠ .declaration) {t : Token}
    (text : t.text = ":") :
    s.step source names (some p) k.token (t :: rest) =
      .ok (s.found (Occurrence.reportedAt braces.place k.token).toList [], 0) := by
  have at_ := within.at_ noObject
  by_cases plain : k.token.kind = .plainName
  · exact step_name at_ within.params inert plain (by simp [text]) (by simp [text])
  · have none : Occurrence.reportedAt braces.place k.token = none := if_neg fun all => plain all.1
    have bracket := k.lexical.not_bracket k.not_punctuation
    rw [none, Option.toList, State.found_nil within.params]
    refine step_quiet at_.noKey at_.settled bracket
      (Or.inl (by simp [Token.isPunctuation, k.not_punctuation]))
      (by simp [k.not_substitution, word, plain]) fun operator => ?_
    rcases k.kind with kind | ⟨-, word⟩
    · rw [operator] at kind
      exact absurd kind (by decide)
    · constructor <;> rintro same <;> rw [same] at word <;> revert word <;> decide

/-- A spread in an object literal. -/
theorem Braces.Open.step_spread (within : Braces.object.Open s) (dots : Mark "...") (e : Expression) :
    ∃ s', s.step source names previous dots.token (e.tokens ++ rest) = .ok (s', 0) ∧
      Ready .inner (e.spreadStart .object) dots.token s' ∧
      ∀ references calls, s'.found references calls = (s.found references calls).pastKey := by
  obtain ⟨t, more, same, -, colon, group⟩ := e.tokens_eq
  have expects : s.scope.expectsKey = true := within.key.2 rfl
  obtain ⟨opens, closes⟩ := dots.not_bracket rfl rfl
  rw [same]
  cases starts : e.startsGroup with
  | true =>
    have text : t.text = "(" := group.2 starts
    have role : keyRole s dots.token (some t) = .key true := by
      simp [keyRole, textIn, text, within.kind, Braces.kind, expects, opens, closes]
    refine ⟨{ s.pastKey with pendingParams := true }, ?_, ?_, fun references calls => rfl⟩
    · unfold State.step
      rw [settle_eq_self within.settled]
      dsimp only
      rw [if_neg (by simp [dots.punctuation]), List.cons_append, List.head?_cons, role]
      rfl
    · have at_ := within.pastKey
      refine ⟨⟨at_.holds, at_.noKey, at_.settled, at_.noClass⟩, ?_, ?_⟩
      · simp [Expression.spreadStart, starts]
      · simp [Expression.spreadStart, starts, Start.Leads, dots.punctuation, dots.same]
  | false =>
    have text : t.text ≠ "(" := by
      intro text
      rw [group.1 text] at starts
      cases starts
    have role : keyRole s dots.token (some t) = .value := by
      simp [keyRole, textIn, text, colon, keyModifiers, dots.same]
    refine ⟨s.pastKey, ?_, ⟨within.pastKey, ?_, ?_⟩, fun references calls => rfl⟩
    · rw [step_plain within.settled (by simpa using role) ⟨opens, closes⟩
        (Or.inl (by simp [Token.isPunctuation, dots.same])) (by simp [dots.punctuation])]
      have past : (s.scope.countConditional dots.token (t :: more ++ rest).head?).pastKey =
          { s.scope with expectsKey := false } := by
        rw [countConditional_eq_self (by simp [dots.punctuation])]
        simp [Scope.pastKey, within.kind, Braces.kind]
      exact congrArg (fun scope => Except.ok ({ s with scope }, 0)) past
    · have params : s.pastKey.pendingParams = false := within.params
      simp [Expression.spreadStart, starts, params]
    · simp [Expression.spreadStart, starts, Start.Leads, dots.punctuation, dots.same]

end Properties

/-! ## The induction -/

section Induction

variable {source : List Char} {names : List String}

/-- Whether no declaring word is read where no key is expected. -/
def Undeclared (occurrences : List Occurrence) : Prop :=
  ∀ o ∈ occurrences, o.declares = false

theorem Undeclared.append {occurrences occurrences' : List Occurrence} :
    Undeclared (occurrences ++ occurrences') ↔
      Undeclared occurrences ∧ Undeclared occurrences' :=
  List.forall_mem_append

theorem filterMap_cons {α β : Type} (f : α → Option β) (a : α) (l : List α) :
    (a :: l).filterMap f = (f a).toList ++ l.filterMap f := by
  cases found : f a <;> simp [found]

theorem Occurrence.reported_key {braces : Braces} (noObject : braces ≠ .object) (k : Key) :
    (Occurrence.key braces k).reported = reportedAt braces.place k.token := by
  cases braces with
  | object => exact absurd rfl noObject
  | block => rfl
  | pattern => rfl

theorem Occurrence.reported_shorthand {braces : Braces} (noObject : braces ≠ .object) (n : Name) :
    (Occurrence.shorthand braces n).reported = reportedAt braces.place n.token := by
  cases braces with
  | object => exact absurd rfl noObject
  | block => rfl
  | pattern => rfl

theorem Expression.startsGroup_of_method {e : Expression} {braces : Braces}
    (method : e.spreadStart braces = .method) : e.startsGroup = true := by
  unfold Expression.spreadStart at method
  split at method
  · next both => exact both.2
  · cases method

theorem Mark.leads {text : String} (m : Mark text) (listed : text ∈ ["(", "[", ",", "..."]) :
    Start.fresh.Leads m.token :=
  Or.inr ⟨m.punctuation, by rwa [m.same]⟩

theorem Mark.inert {text : String} (m : Mark text) (listed : text ∈ ["\x7b", ","]) :
    Inert (some m.token) := by
  simp only [List.mem_cons, List.not_mem_nil, or_false] at listed
  rcases listed with rfl | rfl <;>
    simp [Inert, isMember, punctuationIs, Token.isPunctuation, kindIs, textIn, m.punctuation, m.same]

/-- The first expression between brackets. -/
theorem Ready.inside {place : Place} {s : State} (noClass : s.pendingClass = false) {text : String}
    (opener : Mark text) (listed : text ∈ ["(", "[", ",", "..."]) {kind : ScopeKind}
    (noObject : kind ≠ .object) (holds : place.Holds (Scope.opened kind s.references)) :
    Ready place .fresh opener.token (s.inside opener.token kind) :=
  ⟨⟨holds, by simp [State.inside, Scope.opened, noObject], rfl, noClass⟩,
    by simp [State.inside], opener.leads listed⟩

theorem Braces.kind_ne (braces : Braces) : braces.kind ≠ .substitution := by
  cases braces <;> nofun

/-- The first property between braces. -/
theorem Braces.Open.inside {s : State} (noClass : s.pendingClass = false) (opener : Token)
    (braces : Braces) : braces.Open (s.inside opener braces.kind) := by
  refine ⟨rfl, ?_, rfl, rfl, noClass, rfl⟩
  cases braces <;> simp [State.inside, Scope.opened, Braces.kind]

/-- Between the two marks of a conditional one more colon is awaited. -/
theorem Ready.conditional {place : Place} {start : Start} {s : State} {p : Token}
    (ready : Ready place start p s) (references : List Reference) (calls : List Call)
    (question : Sign "?") (colon : Sign ":") (yes : Expression) {tokens rest : List Token}
    {reported reported' : List Reference} {previous : Option Token}
    (readYes : ∀ {u : State}, Ready place.asking .fresh question.token u →
      ReadsAll source names reported u (some question.token) yes.tokens
        ((colon.token :: tokens) ++ rest))
    (readNo : ∀ references calls,
      Reads source names reported' (s.found references calls) (some colon.token) tokens rest) :
    Reads source names (reported ++ reported') (s.found references calls) previous
      ((question.token :: yes.tokens) ++ colon.token :: tokens) rest := by
  obtain ⟨t, more, same, dot, -⟩ := yes.tokens_eq
  have at_ := ready.found references calls
  have asking : Ready place.asking .fresh question.token ((s.found references calls).modifyScope
      fun scope => { scope with conditionals := scope.conditionals + 1 }) := by
    refine ⟨⟨?_, at_.noKey, at_.settled, at_.noClass⟩, by simp [State.modifyScope, State.found],
      Or.inl ⟨question.operator, by simp [question.same], by simp [question.same]⟩⟩
    have holds := at_.holds
    cases place with
    | hidden => exact holds
    | inner => exact holds
    | bare pending => exact ⟨holds.1, congrArg (· + 1) holds.2⟩
  have step : (s.found references calls).step source names previous question.token
      (yes.tokens ++ ((colon.token :: tokens) ++ rest)) = .ok (_, 0) :=
    step_question question at_.noKey at_.settled (by simp [same, dot])
  obtain ⟨references', calls', last, among, ran⟩ := readYes asking
  have at_' := asking.found references' calls'
  obtain ⟨references'', calls'', taken, last', among', none, skips, ran'⟩ :=
    readNo (references ++ references') (calls' ++ calls)
  refine ⟨references' ++ references'', calls'' ++ calls', taken, last', among.append among', none,
    skips, ?_⟩
  rw [List.append_assoc, List.cons_append, run_cons step, ran, List.cons_append,
    run_cons (step_colon colon at_'.noKey at_'.settled), State.found_found, ← List.append_assoc,
    List.append_assoc calls'', ← State.found_found, ← ran', ← State.found_found]
  rfl

mutual

theorem Expression.reads : ∀ (e : Expression) {place : Place} {start : Start} {s : State}
    {p : Token} {rest : List Token}, Ready place start p s →
    (start = .method → e.startsGroup = true) → Undeclared (e.occurrences place start) →
    Continues source rest →
    Reads source names ((e.occurrences place start).filterMap Occurrence.reported) s (some p)
      e.tokens rest
  | .name n, place, start, s, p, rest, ready, method, _, continues => by
    have noMethod : start ≠ .method := fun same => by cases method same
    rw [Expression.occurrences, filterMap_cons, List.filterMap_nil, List.append_nil]
    exact n.reads ready.toAt (ready.params_eq noMethod) ready.leads.inert continues
  | .literal l, place, start, s, p, rest, ready, method, _, continues => by
    have noMethod : start ≠ .method := fun same => by cases method same
    exact (l.reads ready.toAt (ready.params_eq noMethod) (some p)).reads
  | .member e dot n, place, start, s, p, rest, ready, method, quiet, continues => by
    have all : ReadsAll source names _ s (some p) e.tokens ([dot.token, n.token] ++ rest) :=
      (e.reads ready method quiet (dot.continues (by decide) (by decide))).all
        (dot.noList (by decide))
    have whole := all.append_all fun references calls last =>
      .cons (dot.step_quiet (ready.found references calls) rfl rfl (Or.inl (by decide)))
        (.cons (step_member (ready.found references calls) dot n) (.nil rfl))
    rw [List.append_nil] at whole
    exact whole.reads
  | .call callee opener arguments closer, place, start, s, p, rest, ready, method, quiet,
      continues => by
    obtain ⟨quiet, quiet'⟩ := Undeclared.append.1 quiet
    have callable (t : Token) : ∃ call, callAt source t
        ((opener.token :: arguments.tokens ++ [closer.token]) ++ rest) =
          .ok (call, (opener.token :: arguments.tokens ++ [closer.token]).length) := by
      simpa using arguments.callAt_eq source t opener closer rest
    have reads := callee.reads ready method quiet
      ⟨by simp [opener.same], fun _ => ⟨_, callable⟩⟩
    rw [Expression.tokens, Expression.occurrences, List.filterMap_append, List.append_assoc]
    refine (reads.append_list (by simp) callable fun references calls last => ?_).reads
    have at_ := ready.found references calls
    have opened : (s.found references calls).opening last opener.token =
        (s.found references calls).inside opener.token .paren := by
      rw [opening_eq at_ last opener.token (Or.inl opener.same), opener.same,
        openerKind_call rfl]
    have inside : Ready .inner .fresh opener.token
        ((s.found references calls).inside opener.token .paren) :=
      Ready.inside at_.noClass opener (by decide) (by decide) (Or.inl rfl)
    exact ReadsWithin.enclosed opener closer rfl (by decide) at_.settled opened
      (arguments.reads inside (by simp [State.inside, Scope.opened]) quiet'
        (closer.continues (by decide) (by decide)) (closer.noList (by decide))).within
      continues.noArrow
  | .array opener elements closer, place, start, s, p, rest, ready, method, quiet, continues => by
    have noMethod : start ≠ .method := fun same => by cases method same
    have opened : s.opening (some p) opener.token = s.inside opener.token place.bracketKind := by
      rw [opening_eq ready.toAt _ _ (Or.inr (ready.params_eq noMethod)), opener.same,
        openerKind_square ready]
    have kind : place.bracketKind ≠ .object ∧ place.bracketKind ≠ .substitution ∧
        place.elements.Holds (Scope.opened place.bracketKind s.references) := by
      cases place <;> simp [Place.bracketKind, Place.elements, Place.Holds, Scope.opened]
    exact (ReadsWithin.enclosed opener closer rfl kind.2.1 ready.settled opened
      (elements.reads (Ready.inside ready.noClass opener (by decide) kind.1 kind.2.2) kind.1 quiet
        (closer.continues (by decide) (by decide)) (closer.noList (by decide))).within
      continues.noArrow).reads
  | .group opener inner closer, place, start, s, p, rest, ready, method, quiet, continues => by
    have opened : s.opening (some p) opener.token = s.inside opener.token start.groupKind := by
      rw [opening_eq ready.toAt _ _ (Or.inl opener.same), opener.same, openerKind_group ready]
    have kind : start.groupKind ≠ .object ∧ start.groupKind ≠ .substitution ∧
        start.group.Holds (Scope.opened start.groupKind s.references) := by
      cases start <;> simp [Start.groupKind, Start.group, Place.Holds, Scope.opened]
    exact (ReadsWithin.enclosed opener closer rfl kind.2.1 ready.settled opened
      ((inner.reads (Ready.inside ready.noClass opener (by decide) kind.1 kind.2.2) nofun quiet
        (closer.continues (by decide) (by decide))).all (closer.noList (by decide))).within
      continues.noArrow).reads
  | .binary left operator right, place, start, s, p, rest, ready, method, quiet, continues => by
    obtain ⟨quiet, quiet'⟩ := Undeclared.append.1 quiet
    have all : ReadsAll source names _ s (some p) left.tokens
        ((operator.token :: right.tokens) ++ rest) :=
      (left.reads ready method quiet operator.continues).all operator.noList
    rw [Expression.tokens, Expression.occurrences, List.filterMap_append]
    exact all.append fun references calls last =>
      .cons (operator.step_quiet (ready.found references calls))
        (right.reads (ready.of_found operator.leads nofun references calls) nofun quiet' continues)
  | .conditional test question yes colon no, place, start, s, p, rest, ready, method, quiet,
      continues => by
    obtain ⟨quiet, quietNo⟩ := Undeclared.append.1 quiet
    obtain ⟨quiet, quietYes⟩ := Undeclared.append.1 quiet
    have tokens : (Expression.conditional test question yes colon no).tokens =
        test.tokens ++ ((question.token :: yes.tokens) ++ colon.token :: no.tokens) := by
      simp [Expression.tokens]
    have all : ReadsAll source names _ s (some p) test.tokens
        (((question.token :: yes.tokens) ++ colon.token :: no.tokens) ++ rest) :=
      (test.reads ready method quiet (question.continues (by decide) (by decide))).all
        (question.noList (by decide))
    rw [tokens, Expression.occurrences, List.filterMap_append, List.filterMap_append,
      List.append_assoc]
    refine all.append fun references calls last =>
      ready.conditional references calls question colon yes (fun asking => ?_)
        fun references' calls' => ?_
    · exact (yes.reads asking nofun quietYes (colon.continues (by decide) (by decide))).all
        (colon.noList (by decide))
    · exact no.reads (ready.of_found colon.leads (by decide) references' calls') nofun quietNo
        continues
  | .object opener properties closer, place, start, s, p, rest, ready, method, quiet,
      continues => by
    have noMethod : start ≠ .method := fun same => by cases method same
    have opened : s.opening (some p) opener.token =
        s.inside opener.token (place.braces start).kind := by
      rw [opening_eq ready.toAt _ _ (Or.inr (ready.params_eq noMethod)), opener.same,
        openerKind_curly ready noMethod]
    exact (ReadsWithin.enclosed opener closer rfl (Braces.kind_ne _) ready.settled opened
      (properties.reads (Braces.Open.inside ready.noClass opener.token _) (opener.inert (by decide)) quiet
        closer.same) continues.noArrow).reads

theorem Elements.reads : ∀ (es : Elements) {place : Place} {s : State} {p : Token}
    {rest : List Token}, Ready place .fresh p s → s.scope.kind ≠ .object →
    Undeclared (es.occurrences place) → Continues source rest → textIs "(" rest.head? = false →
    ReadsAll source names ((es.occurrences place).filterMap Occurrence.reported) s (some p)
      es.tokens rest
  | .nil, place, s, p, rest, ready, _, _, _, _ => .nil (ready.params_eq nofun)
  | .last e, place, s, p, rest, ready, _, quiet, continues, noList =>
    (e.reads ready nofun quiet continues).all noList
  | .more e comma es, place, s, p, rest, ready, noObject, quiet, continues, noList => by
    obtain ⟨quiet, quiet'⟩ := Undeclared.append.1 quiet
    have all : ReadsAll source names _ s (some p) e.tokens ((comma.token :: es.tokens) ++ rest) :=
      (e.reads ready nofun quiet (comma.continues (by decide) (by decide))).all
        (comma.noList (by decide))
    rw [Elements.tokens, Elements.occurrences, List.filterMap_append]
    exact all.append_all fun references calls last =>
      .cons (comma.step_quiet (ready.found references calls) rfl rfl (Or.inr noObject))
        (es.reads (ready.of_found (comma.leads (by decide)) nofun references calls) noObject quiet' continues
          noList)

theorem Property.reads : ∀ (p' : Property) {braces : Braces} {s : State} {p : Token}
    {rest : List Token}, braces.Open s → Inert (some p) → Undeclared (p'.occurrences braces) →
    EndsProperty rest →
    ReadsProperty source names ((p'.occurrences braces).filterMap Occurrence.reported) s (some p)
      p'.tokens rest
  | .keyed key colon value, braces, s, p, rest, within, inert, quiet, ends => by
    have read {u : State} (at_ : At braces.place u) (params : u.pendingParams = false) :
        ReadsAll source names _ u (some colon.token) value.tokens rest :=
      (value.reads ⟨at_, by simp [params], colon.leads⟩ nofun
        (fun o member => quiet o (List.mem_cons_of_mem _ member)) ends.continues).all ends.noList
    by_cases object : braces = .object
    · subst object
      exact .cons (within.step_key key colon.same)
        (.cons (within.step_colon colon) (read within.pastKey within.params))
    · have word : key.token.kind ≠ .declaration := by
        have quiet := quiet _ (by rw [Property.occurrences]; exact List.mem_cons_self)
        cases braces with
        | object => exact absurd rfl object
        | block => exact ne_of_beq_false quiet
        | pattern => exact ne_of_beq_false quiet
      have step : s.step source names (some p) key.token
          ((colon.token :: value.tokens) ++ rest) = .ok (_, 0) :=
        within.step_bareKey object inert key word colon.same
      have keyed : ReadsAll source names _ s (some p) [key.token]
          ((colon.token :: value.tokens) ++ rest) :=
        ⟨_, [], some key.token, .of_eq _, run_cons step⟩
      have reported : (Property.occurrences braces (.keyed key colon value)).filterMap
          Occurrence.reported = (Occurrence.reportedAt braces.place key.token).toList ++
            (value.occurrences braces.place .colon).filterMap Occurrence.reported := by
        rw [Property.occurrences, filterMap_cons, Occurrence.reported_key object]
      rw [reported]
      refine ReadsAll.property (keyed.append_all fun references calls last => ?_) within object
      have within' := within.found references calls
      exact .cons (within'.step_bareColon object colon) (read (within'.at_ object) rfl)
  | .shorthand n, braces, s, p, rest, within, inert, quiet, ends => by
    rw [Property.occurrences, filterMap_cons, List.filterMap_nil, List.append_nil]
    by_cases object : braces = .object
    · subst object
      exact ⟨_, [], some n.token, .of_eq _, run_cons (within.step_shorthand inert n ends)⟩
    · rw [Occurrence.reported_shorthand object]
      exact ((n.reads (within.at_ object) within.params inert ends.continues).all
        ends.noList).property within object
  | .spread dots e, braces, s, p, rest, within, inert, quiet, ends => by
    by_cases object : braces = .object
    · subst object
      obtain ⟨s', step, ready, found⟩ := within.step_spread dots e
      obtain ⟨references, calls, last, among, ran⟩ :=
        (e.reads ready Expression.startsGroup_of_method quiet ends.continues).all
          ends.noList
      exact ⟨references, calls, last, among, by
        rw [Property.tokens, List.cons_append, run_cons step, ran, found]⟩
    · have start : e.spreadStart braces = .fresh := by simp [Expression.spreadStart, object]
      rw [Property.occurrences, start] at quiet ⊢
      have at_ := within.at_ object
      exact ReadsAll.property (.cons (dots.step_quiet at_ rfl rfl (Or.inl (by decide)))
        ((e.reads ⟨at_, by simp [within.params], dots.leads (by decide)⟩ nofun quiet
          ends.continues).all ends.noList)) within object

theorem Properties.reads : ∀ (ps : Properties) {braces : Braces} {s : State} {p : Token}
    {close : Token} {rest : List Token}, braces.Open s → Inert (some p) →
    Undeclared (ps.occurrences braces) → close.text = "\x7d" →
    ReadsWithin source names ((ps.occurrences braces).filterMap Occurrence.reported) s (some p)
      ps.tokens (close :: rest)
  | .nil, braces, s, p, close, rest, within, _, _, _ => (ReadsAll.nil within.params).within
  | .last p', braces, s, p, close, rest, within, inert, quiet, closes => by
    obtain ⟨references, calls, last, among, ran⟩ :=
      p'.reads within inert quiet ⟨close, rest, rfl, Or.inr closes⟩
    exact ⟨references, calls, last, false, among, nofun, ran⟩
  | .more p' comma ps, braces, s, p, close, rest, within, inert, quiet, closes => by
    obtain ⟨quiet, quiet'⟩ := Undeclared.append.1 quiet
    obtain ⟨references, calls, last, among, ran⟩ :=
      p'.reads within inert quiet ⟨comma.token, ps.tokens ++ close :: rest, rfl, Or.inl comma.same⟩
    have within' := within.found references calls
    obtain ⟨references', calls', last', key, among', due, ran'⟩ :=
      ps.reads within' (comma.inert (by decide)) quiet' closes
    refine ⟨references ++ references', calls' ++ calls, last', key, ?_, due, ?_⟩
    · rw [Properties.occurrences, List.filterMap_append]
      exact among.append among'
    · rw [Properties.tokens, List.append_assoc, List.cons_append, ran,
        run_cons (within'.step_comma comma), ran', State.found_found]

end

end Induction

end Folio.Script
