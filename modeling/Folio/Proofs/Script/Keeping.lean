import Folio.Proofs.Script.Invocation

/-!
# What a token keeps

A token that is no bracket keeps the scopes around it and, unless it is the word of a class, what a
class or a declarator list waits for (`step_keeps`). Beside that it is reported at most under its
own name (`Keeps.found`). A name that the pass takes for a binding is not reported at all
(`step_passive`).
-/

namespace Folio.Script

section Settle

variable (s : State) (previous : Option Token) (t : Token)

@[simp] theorem settle_kind : (s.settle previous t).scope.kind = s.scope.kind := by
  unfold State.settle
  split <;> rfl

@[simp] theorem settle_expectsKey :
    (s.settle previous t).scope.expectsKey = s.scope.expectsKey := by
  unfold State.settle
  split <;> rfl

@[simp] theorem settle_pendingClass : (s.settle previous t).pendingClass = s.pendingClass := by
  unfold State.settle
  split <;> rfl

@[simp] theorem settle_pendingParams : (s.settle previous t).pendingParams = s.pendingParams := by
  unfold State.settle
  split <;> rfl

end Settle

structure Keeps (s s' : State) : Prop where
  outer : s'.outer = s.outer
  kind : s'.scope.kind = s.scope.kind
  before : s'.scope.before = s.scope.before
  pendingClass : s'.pendingClass = s.pendingClass
  declaring : s.scope.declaring = true → s'.scope.declaring = true

namespace Keeps

variable {s s' s'' : State}

theorem refl (s : State) : Keeps s s :=
  ⟨rfl, rfl, rfl, rfl, id⟩

theorem trans (first : Keeps s s') (second : Keeps s' s'') : Keeps s s'' :=
  ⟨second.outer.trans first.outer, second.kind.trans first.kind, second.before.trans first.before,
    second.pendingClass.trans first.pendingClass, second.declaring ∘ first.declaring⟩

theorem pastKey (s : State) : Keeps s (s.modifyScope Scope.pastKey) := by
  have same : s.scope.pastKey.kind = s.scope.kind ∧ s.scope.pastKey.before = s.scope.before ∧
      s.scope.pastKey.declaring = s.scope.declaring := by
    unfold Scope.pastKey
    split <;> exact ⟨rfl, rfl, rfl⟩
  exact ⟨rfl, same.1, same.2.1, rfl, fun on => same.2.2.trans on⟩

theorem countConditional (s : State) (t : Token) (following : Option Token) :
    Keeps s (s.modifyScope (·.countConditional t following)) := by
  have same : (s.scope.countConditional t following).kind = s.scope.kind ∧
      (s.scope.countConditional t following).before = s.scope.before ∧
      (s.scope.countConditional t following).declaring = s.scope.declaring := by
    unfold Scope.countConditional
    split
    · exact ⟨rfl, rfl, rfl⟩
    · split
      · exact ⟨rfl, rfl, rfl⟩
      · split <;> exact ⟨rfl, rfl, rfl⟩
  exact ⟨rfl, same.1, same.2.1, rfl, fun on => same.2.2.trans on⟩

theorem declare (s : State) {text : String} (noClass : text ≠ "class") : Keeps s (s.declare text) := by
  unfold State.declare
  split
  · exact ⟨rfl, rfl, rfl, rfl, fun _ => rfl⟩
  · split <;> exact ⟨rfl, rfl, rfl, rfl, id⟩

theorem marks (keeps : Keeps s s') : s'.marks = s.marks := by
  rw [State.marks, State.marks, keeps.outer, keeps.before]

end Keeps

section Steps

variable {source : List Char} {names : List String} {s s' : State} {previous : Option Token}
  {t : Token} {rest : List Token} {taken : Nat}

theorem name_keeps (named : s.name source names previous t rest = .ok (s', taken)) :
    Keeps s s' := by
  unfold State.name at named
  split at named
  · cases named
    exact .refl s
  · cases named
    exact ⟨rfl, rfl, rfl, rfl, id⟩
  · cases named
    exact ⟨rfl, rfl, rfl, rfl, id⟩
  · cases named
    exact ⟨rfl, rfl, rfl, rfl, id⟩
  · split at named
    · cases named
    · cases named
      exact ⟨rfl, rfl, rfl, rfl, id⟩

theorem plain_keeps (word : t.kind = .declaration → isMember previous = true ∨ t.text ≠ "class")
    (step : s.plain source names previous t rest = .ok (s', taken)) : Keeps s s' := by
  unfold State.plain at step
  refine (Keeps.countConditional s t rest.head?).trans ?_
  generalize s.modifyScope (·.countConditional t rest.head?) = u at step ⊢
  dsimp only at step
  split at step
  · next declares =>
    cases step
    have noClass : t.text ≠ "class" := (word declares.1).resolve_left (by simpa using declares.2)
    exact (Keeps.declare u noClass).trans (Keeps.pastKey _)
  · split at step
    · split at step
      · cases step
      · next v n named =>
        cases step
        exact (name_keeps named).trans (Keeps.pastKey v)
    · cases step
      exact Keeps.pastKey u

theorem step_keeps (bracket : t.opens = false ∧ t.closes = false) (code : t.kind ≠ .substitution)
    (word : t.kind = .declaration → isMember previous = true ∨ t.text ≠ "class")
    (step : s.step source names previous t rest = .ok (s', taken)) :
    Keeps (s.settle previous t) s' := by
  unfold State.step at step
  generalize s.settle previous t = u at step ⊢
  dsimp only at step
  rw [if_neg code] at step
  split at step
  · cases step
    exact ⟨rfl, rfl, rfl, rfl, id⟩
  · cases step
    exact .refl _
  · rw [if_neg (by simp [bracket]), if_neg (by simp [bracket])] at step
    split at step
    · cases step
      exact ⟨rfl, rfl, rfl, rfl, id⟩
    · exact plain_keeps word step

/-- A token that keeps the scopes is reported as a reference or begins a call or neither. -/
theorem Keeps.found (keeps : Keeps (s.settle previous t) s')
    (step : s.step source names previous t rest = .ok (s', taken)) :
    taken = 0 ∧ s'.calls = s.calls ∧
        (∀ r ∈ s'.references, r ∈ s.references ∨ t.kind = .plainName ∧ r.start = t.start) ∨
      ∃ call, t.kind = .plainName ∧ textIs "(" rest.head? = true ∧
        callAt source t rest = .ok (call, taken) ∧ s'.calls = call :: s.calls ∧
        s'.references = s.references := by
  have marks : s'.marks = s.marks := keeps.marks.trans (Quiet.settle s previous t).2.2
  have length : s'.marks.length = s.marks.length := congrArg List.length marks
  cases step_effect step with
  | quiet same => exact Or.inl ⟨rfl, same.1, fun r member => Or.inl (same.2.1 ▸ member)⟩
  | opened calls references deeper =>
    rw [deeper, List.length_cons] at length
    omega
  | closed calls shallower references =>
    rw [shallower, List.length_cons] at length
    omega
  | reported shorthand plain simple follows uncalled calls references marks =>
    refine Or.inl ⟨rfl, calls, fun r member => ?_⟩
    rw [references] at member
    rcases List.mem_cons.1 member with rfl | member
    · exact Or.inr ⟨plain, rfl⟩
    · exact Or.inl member
  | called plain named opens found calls references marks =>
    exact Or.inr ⟨_, plain, opens, found, calls, references⟩

/-! ## Words and names -/

/-- Whether no key of an object literal is due. -/
def Keyless (s : State) : Prop :=
  s.scope.kind = .object → s.scope.expectsKey = false

theorem Keyless.settle (keyless : Keyless s) (previous : Option Token) (t : Token) :
    Keyless (s.settle previous t) := by
  simpa [Keyless] using keyless

theorem keyless_pastKey (s : State) : Keyless (s.modifyScope Scope.pastKey) := by
  intro object
  change s.scope.pastKey.expectsKey = false
  change s.scope.pastKey.kind = .object at object
  unfold Scope.pastKey at object ⊢
  split at object <;> simp_all

theorem Keyless.keyRole_eq (keyless : Keyless s) (t : Token) (following : Option Token) :
    keyRole s t following = .value := by
  unfold keyRole
  refine if_pos ?_
  by_cases object : s.scope.kind = .object
  · exact Or.inr (Or.inl (by simp [keyless object]))
  · exact Or.inl object

theorem keyRole_of_word {following : Option Token} (noKey : textIn [":", "("] following = false)
    (plain : t.text ∉ keyModifiers) (s : State) : keyRole s t following = .value := by
  unfold keyRole
  split
  · rfl
  · rw [if_neg (by simp [noKey]), if_neg (by simp [plain])]

/-- A token that is no bracket, no comma, no declaring word and no plain name. -/
theorem step_silent (value : keyRole (s.settle previous t) t rest.head? = .value)
    (bracket : t.opens = false ∧ t.closes = false) (comma : t.isPunctuation "," = false)
    (kind : t.kind ∉ [Kind.substitution, .declaration, .plainName]) :
    s.step source names previous t rest = .ok ((s.settle previous t).modifyScope fun scope =>
      (scope.countConditional t rest.head?).pastKey, 0) := by
  simp only [List.mem_cons, List.not_mem_nil, or_false, not_or] at kind
  unfold State.step
  dsimp only
  rw [if_neg kind.1, value]
  dsimp only
  rw [if_neg (by simp [bracket]), if_neg (by simp [bracket]), if_neg (by simp [comma])]
  unfold State.plain
  dsimp only
  rw [if_neg (fun declaration => kind.2.1 declaration.1), if_neg kind.2.2]
  rfl

theorem step_declare (declares : t.kind = .declaration) (member : isMember previous = false)
    (bracket : t.opens = false ∧ t.closes = false)
    (value : keyRole (s.settle previous t) t rest.head? = .value) :
    s.step source names previous t rest =
      .ok (((s.settle previous t).declare t.text).modifyScope Scope.pastKey, 0) := by
  unfold State.step
  dsimp only
  rw [if_neg (by simp [declares]), value]
  dsimp only
  rw [if_neg (by simp [bracket]), if_neg (by simp [bracket]),
    if_neg (by simp [Token.isPunctuation, declares])]
  unfold State.plain
  rw [State.modifyScope_eq_self (countConditional_eq_self (by simp [declares]))]
  dsimp only
  rw [if_pos ⟨declares, by simp [member]⟩]

/-- A name that the pass takes for a binding, where no key is due. -/
theorem step_passive (kind : t.kind ∈ [Kind.plainName, .otherName, .keyword])
    (bracket : t.opens = false ∧ t.closes = false)
    (value : keyRole (s.settle previous t) t rest.head? = .value)
    (passive : t.kind = .plainName →
      isPassive (s.settle previous t) previous t rest.head? = true) :
    s.step source names previous t rest =
      .ok ((s.settle previous t).modifyScope Scope.pastKey, 0) := by
  by_cases plain : t.kind = .plainName
  · rw [step_plainName rfl value plain, State.name, roleOf, if_pos (passive plain)]
  · have other (k : Kind) (no : k ∉ [Kind.plainName, .otherName, .keyword]) : t.kind ≠ k :=
      fun same => no (same ▸ kind)
    have counted (scope : Scope) : scope.countConditional t rest.head? = scope :=
      countConditional_eq_self fun operator => absurd operator (other _ (by decide))
    rw [step_silent value bracket (by simp [Token.isPunctuation, other .punctuation (by decide)])
      (by simp [plain, other .substitution (by decide), other .declaration (by decide)])]
    simp only [counted]

/-- What a bound name does in any case. -/
theorem step_bound (kind : t.kind ∈ [Kind.plainName, .otherName, .keyword])
    (bracket : t.opens = false ∧ t.closes = false)
    (passive : t.kind = .plainName →
      isPassive (s.settle previous t) previous t rest.head? = true)
    (step : s.step source names previous t rest = .ok (s', taken)) :
    taken = 0 ∧ s'.calls = s.calls ∧ s'.references = s.references := by
  have found := Quiet.settle s previous t
  cases role : keyRole (s.settle previous t) t rest.head? with
  | value =>
    rw [step_passive kind bracket role passive] at step
    cases step
    exact ⟨rfl, found.1, found.2.1⟩
  | key method =>
    have code : t.kind ≠ .substitution := fun same => by simp [same] at kind
    unfold State.step at step
    dsimp only at step
    rw [if_neg code, role] at step
    cases step
    exact ⟨rfl, found.1, found.2.1⟩
  | modifier =>
    have code : t.kind ≠ .substitution := fun same => by simp [same] at kind
    unfold State.step at step
    dsimp only at step
    rw [if_neg code, role] at step
    cases step
    exact ⟨rfl, found.1, found.2.1⟩

/-- The word of a function, before its name or its parameters. -/
theorem step_function (declares : t.kind = .declaration) (text : t.text = "function")
    (member : isMember previous = false) (bracket : t.opens = false ∧ t.closes = false)
    (following : textIs ":" rest.head? = false) :
    ∃ s', s.step source names previous t rest = .ok (s', 0) ∧ s'.pendingParams = true ∧
      Keyless s' := by
  cases role : keyRole (s.settle previous t) t rest.head? with
  | value =>
    refine ⟨_, step_declare declares member bracket role, ?_, keyless_pastKey _⟩
    simp [State.modifyScope, State.declare, text, variableKeywords]
  | key method =>
    refine ⟨{ (s.settle previous t).modifyScope ({ · with expectsKey := false }) with
      pendingParams := method }, ?_, ?_, fun _ => rfl⟩
    · unfold State.step
      dsimp only
      rw [if_neg (by simp [declares]), role]
    · unfold keyRole at role
      split at role
      · cases role
      · split at role
        · next key =>
          cases role
          cases found : rest.head? with
          | none => simp [found, textIn] at key
          | some f => simp_all [textIn, textIs]
        · split at role <;> cases role
  | modifier =>
    unfold keyRole at role
    split at role
    · cases role
    · split at role
      · cases role
      · rw [if_neg (by simp [text, keyModifiers])] at role
        cases role

/-! ## Members -/

/-- A key of an object literal, where one is due. -/
theorem step_key (object : s.scope.kind = .object) (due : s.scope.expectsKey = true)
    (bracket : t.opens = false ∧ t.closes = false) (code : t.kind ≠ .substitution)
    (following : textIn [":", "("] rest.head? = true) :
    ∃ s', s.step source names previous t rest = .ok (s', 0) ∧
      s'.pendingParams = textIs "(" rest.head? ∧ s'.references = s.references ∧
      s'.calls = s.calls := by
  have found := Quiet.settle s previous t
  refine ⟨{ (s.settle previous t).modifyScope ({ · with expectsKey := false }) with
    pendingParams := textIs "(" rest.head? }, ?_, rfl, found.2.1, found.1⟩
  have role : keyRole (s.settle previous t) t rest.head? = .key (textIs "(" rest.head?) := by
    unfold keyRole
    rw [if_neg (by simp [object, due, bracket]), if_pos following]
  unfold State.step
  dsimp only
  rw [if_neg code, role]

/-- A modifier in an object literal. -/
theorem step_modifier (object : s.scope.kind = .object) (due : s.scope.expectsKey = true)
    (bracket : t.opens = false ∧ t.closes = false) (code : t.kind ≠ .substitution)
    (modifies : t.text ∈ keyModifiers) {f : Token} (next : rest.head? = some f)
    (following : f.text ∉ [":", "(", ",", "\x7d"]) :
    s.step source names previous t rest = .ok (s.settle previous t, 0) := by
  simp only [List.mem_cons, List.not_mem_nil, or_false, not_or] at following
  have role : keyRole (s.settle previous t) t rest.head? = .modifier := by
    unfold keyRole
    rw [if_neg (by simp [object, due, bracket]), next, if_neg (by simp [textIn, following]),
      if_pos ⟨by simpa using modifies, rfl, by simp [textIn, following]⟩]
  unfold State.step
  dsimp only
  rw [if_neg code, role]

/-- A comma between the properties of an object literal. -/
theorem step_comma (object : s.scope.kind = .object) (comma : t.isPunctuation "," = true)
    (following : textIn [":", "("] rest.head? = false) :
    ∃ s', s.step source names previous t rest = .ok (s', 0) ∧ s'.scope.expectsKey = true := by
  obtain ⟨kind, text⟩ : t.kind = .punctuation ∧ t.text = "," := by
    simpa [Token.isPunctuation] using comma
  refine ⟨(s.settle previous t).modifyScope ({ · with expectsKey := true }), ?_, rfl⟩
  unfold State.step
  dsimp only
  rw [if_neg (by simp [kind]), keyRole_of_word following (by simp [text, keyModifiers])]
  dsimp only
  rw [if_neg (by simp [Token.opens, text, Token.closerOf]),
    if_neg (by simp [Token.closes, text, Token.isCloserText]), if_pos ⟨comma, by simp [object]⟩]

/-- Whether a class member may begin after a token. -/
def Starts (previous : Option Token) : Prop :=
  ∃ p, previous = some p ∧ (p.kind = .punctuation ∧ p.text ∈ ["\x7b", "\x7d", ";"] ∨
    p.kind ∈ [Kind.plainName, .keyword, .operator] ∧ p.text ∈ keyModifiers)

/-- The name of a method of a class. -/
theorem step_classMember (body : s.scope.kind = .classBody) (starts : Starts previous)
    (plain : t.kind = .plainName) (simple : isSimpleName t.text = true)
    (opens : textIs "(" rest.head? = true) :
    ∃ s', s.step source names previous t rest = .ok (s', 0) ∧ s'.pendingParams = true ∧
      s'.references = s.references ∧ s'.calls = s.calls := by
  have found := Quiet.settle s previous t
  have keyless : Keyless (s.settle previous t) := fun object => by simp [body] at object
  obtain ⟨p, rfl, p'⟩ := starts
  obtain ⟨f, rest', rfl, bracket⟩ := exists_of_opens opens
  have role : roleOf names (s.settle (some p) t) (some p) t (some f) = .classMember true := by
    have active : isPassive (s.settle (some p) t) (some p) t (some f) = false := by
      rcases p' with ⟨kind, text⟩ | ⟨kind, text⟩
      · simp only [List.mem_cons, List.not_mem_nil, or_false] at text
        rcases text with text | text | text <;>
          simp [isPassive, simple, isMember, punctuationIs, Token.isPunctuation, kindIs, textIn,
            textIs, body, kind, text, bracket]
      · simp only [List.mem_cons, List.not_mem_nil, or_false] at kind
        simp only [keyModifiers, List.mem_cons, List.not_mem_nil, or_false] at text
        rcases kind with kind | kind | kind <;> rcases text with text | text | text | text | text <;>
          simp [isPassive, simple, isMember, punctuationIs, Token.isPunctuation, kindIs, textIn,
            textIs, body, kind, text, bracket]
    have member : startsClassMember (s.settle (some p) t) (some p) = true := by
      rcases p' with ⟨-, text⟩ | ⟨-, text⟩
      · simp only [List.mem_cons, List.not_mem_nil, or_false] at text
        simp [startsClassMember, body, textIn, text]
      · simp [startsClassMember, body, textIn, text]
    rw [roleOf, active, member]
    simp [textIs, bracket]
  refine ⟨({ s.settle (some p) t with pendingParams := true } : State).modifyScope Scope.pastKey,
    ?_, rfl, found.2.1, found.1⟩
  rw [step_plainName rfl (keyless.keyRole_eq _ _) plain, State.name, List.head?_cons, role]

end Steps

end Folio.Script
