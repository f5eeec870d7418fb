import Folio.Script.Tree

/-!
# What a token does to the nodes found

`step_effect` says all that one step can do to the calls and references found so far and to the
marks that the open scopes keep of them.
-/

namespace Folio.Script

/-- The references found before each open scope, innermost first. -/
def State.marks (s : State) : List (List Reference) :=
  s.scope.before :: s.outer.map (·.2.before)

/-- Two states with the same nodes and marks. -/
def Quiet (s s' : State) : Prop :=
  s'.calls = s.calls ∧ s'.references = s.references ∧ s'.marks = s.marks

/-- The effect of a token `t` before `rest` in a state: the next state and the number of tokens that
go with `t`. -/
inductive Effect (source : List Char) (names : List String) (s : State) (t : Token)
    (rest : List Token) : State → Nat → Prop
  | quiet {s' : State} (same : Quiet s s') : Effect source names s t rest s' 0
  | opened {s' : State} (calls : s'.calls = s.calls) (references : s'.references = s.references)
      (marks : s'.marks = s.references :: s.marks) : Effect source names s t rest s' 0
  /-- A bracket closes, perhaps that of the parameters of an arrow function. -/
  | closed {s' : State} (calls : s'.calls = s.calls)
      (marks : s.marks = s.scope.before :: s'.marks)
      (references : s'.references = s.references ∨ s'.references = s.scope.before) :
      Effect source names s t rest s' 0
  | reported {s' : State} (shorthand : Bool) (plain : t.kind = .plainName)
      (simple : isSimpleName t.text = true)
      (follows : shorthand = true → textIn [",", "\x7d"] rest.head? = true)
      (uncalled : t.text ∈ names → textIs "(" rest.head? = false)
      (calls : s'.calls = s.calls)
      (references : s'.references = ⟨t.text, t.start, shorthand⟩ :: s.references)
      (marks : s'.marks = s.marks) : Effect source names s t rest s' 0
  | called {s' : State} {call : Call} {taken : Nat} (plain : t.kind = .plainName)
      (named : t.text ∈ names) (opens : textIs "(" rest.head? = true)
      (found : callAt source t rest = .ok (call, taken))
      (calls : s'.calls = call :: s.calls) (references : s'.references = s.references)
      (marks : s'.marks = s.marks) : Effect source names s t rest s' taken

namespace Quiet

variable {s s' s'' : State}

theorem refl (s : State) : Quiet s s :=
  ⟨rfl, rfl, rfl⟩

theorem trans (first : Quiet s s') (second : Quiet s' s'') : Quiet s s'' :=
  ⟨second.1.trans first.1, second.2.1.trans first.2.1, second.2.2.trans first.2.2⟩

theorem modifyScope (s : State) {f : Scope → Scope} (keeps : (f s.scope).before = s.scope.before) :
    Quiet s (s.modifyScope f) :=
  ⟨rfl, rfl, by simp [State.marks, State.modifyScope, keeps]⟩

theorem settle (s : State) (previous : Option Token) (t : Token) :
    Quiet s (s.settle previous t) := by
  unfold State.settle
  split
  · exact modifyScope s rfl
  · exact refl s

theorem pastKey (s : State) : Quiet s (s.modifyScope Scope.pastKey) := by
  refine modifyScope s ?_
  unfold Scope.pastKey
  split <;> rfl

theorem countConditional (s : State) (t : Token) (following : Option Token) :
    Quiet s (s.modifyScope (·.countConditional t following)) := by
  refine modifyScope s ?_
  unfold Scope.countConditional
  split
  · rfl
  · split
    · rfl
    · split <;> rfl

theorem declare (s : State) (text : String) : Quiet s (s.declare text) := by
  unfold State.declare
  split
  · exact modifyScope s rfl
  · split
    · exact refl s
    · split <;> exact refl s

end Quiet

namespace Effect

variable {source : List Char} {names : List String} {s s' s'' : State} {t : Token}
  {rest : List Token} {taken : Nat}

theorem scope_before_eq (same : Quiet s s') : s'.scope.before = s.scope.before :=
  (List.cons.inj same.2.2).1

/-- Quiet changes before and after a step keep its effect. -/
theorem of_quiet {last : State} (before : Quiet s s')
    (effect : Effect source names s' t rest s'' taken) (after : Quiet s'' last) :
    Effect source names s t rest last taken := by
  have scope := scope_before_eq before
  obtain ⟨calls₁, references₁, marks₁⟩ := before
  obtain ⟨calls₃, references₃, marks₃⟩ := after
  cases effect with
  | quiet same =>
    exact .quiet (Quiet.trans ⟨calls₁, references₁, marks₁⟩
      (same.trans ⟨calls₃, references₃, marks₃⟩))
  | opened calls references marks =>
    exact .opened (by rw [calls₃, calls, calls₁]) (by rw [references₃, references, references₁])
      (by rw [marks₃, marks, references₁, marks₁])
  | closed calls marks references =>
    refine .closed (by rw [calls₃, calls, calls₁]) (by rw [marks₃, ← marks₁, marks, scope]) ?_
    rwa [references₃, ← references₁, ← scope]
  | reported shorthand plain simple follows uncalled calls references marks =>
    exact .reported shorthand plain simple follows uncalled (by rw [calls₃, calls, calls₁])
      (by rw [references₃, references, references₁]) (by rw [marks₃, marks, marks₁])
  | called plain named opens found calls references marks =>
    exact .called plain named opens found (by rw [calls₃, calls, calls₁])
      (by rw [references₃, references, references₁]) (by rw [marks₃, marks, marks₁])

theorem of_quiet_before (before : Quiet s s') (effect : Effect source names s' t rest s'' taken) :
    Effect source names s t rest s'' taken :=
  of_quiet before effect (Quiet.refl s'')

end Effect

/-! ## One step -/

section Step

variable {source : List Char} {names : List String} {s s' : State} {previous : Option Token}
  {t : Token} {rest : List Token} {taken : Nat}

theorem leave_ok {closer : String} :
    s.leave t closer = .ok s' ↔ ∃ opener scope outer, s.outer = (opener, scope) :: outer ∧
      closer = s.scope.closer opener ∧ s' = { s with scope, outer } := by
  unfold State.leave
  constructor
  · intro left
    split at left
    · cases left
    · next opener scope outer found =>
      dsimp only at left
      split at left
      · next matching => exact ⟨opener, scope, outer, found, matching, (Except.ok.inj left).symm⟩
      · cases left
  · rintro ⟨opener, scope, outer, found, matching, rfl⟩
    rw [found]
    exact if_pos matching

theorem map_ok {α β : Type} {f : α → β} {x : Except Defect α} {b : β}
    (mapped : x.map f = .ok b) : ∃ a, x = .ok a ∧ f a = b := by
  cases x with
  | error defect => cases mapped
  | ok a => exact ⟨a, rfl, Except.ok.inj mapped⟩

theorem leave_marks {closer : String} (left : s.leave t closer = .ok s') :
    s'.calls = s.calls ∧ s'.references = s.references ∧ s.marks = s.scope.before :: s'.marks := by
  obtain ⟨opener, scope, outer, found, -, rfl⟩ := leave_ok.1 left
  exact ⟨rfl, rfl, by simp [State.marks, found]⟩

theorem closing_effect {following : Option Token} (closed : s.closing t following = .ok s') :
    Effect source names s t rest s' 0 := by
  unfold State.closing at closed
  split at closed
  · cases closed
  · next left leaves =>
    obtain ⟨calls, references, marks⟩ := leave_marks leaves
    split at closed
    · cases closed
      exact .closed calls marks (Or.inr rfl)
    · cases closed
      exact .closed calls marks (Or.inl references)

theorem opening_effect : Effect source names s t rest (s.opening previous t) 0 := by
  refine .opened ?_ ?_ ?_ <;> unfold State.opening State.enter
  · dsimp only
    split
    · rfl
    · split <;> rfl
  · dsimp only
    split
    · rfl
    · split <;> rfl
  · have marks (u : State) (kind : ScopeKind) :
        ((u.modifyScope Scope.pastKey).enter t kind).marks = u.references :: u.marks :=
      congrArg (u.references :: ·) (Quiet.pastKey u).2.2
    dsimp only
    split
    · exact marks _ _
    · split
      · exact marks _ _
      · exact marks _ _

theorem roleOf_passive_or_simple (names : List String) (s : State) (previous : Option Token)
    (t : Token) (following : Option Token) :
    roleOf names s previous t following = .passive ∨ isSimpleName t.text = true := by
  cases simple : isSimpleName t.text with
  | true => exact Or.inr rfl
  | false => exact Or.inl (by simp [roleOf, isPassive, simple])

theorem textIn_of_roleOf {following : Option Token}
    (role : roleOf names s previous t following = .shorthand) :
    textIn [",", "\x7d"] following = true := by
  unfold roleOf at role
  split at role
  · cases role
  · split at role
    · cases role
    · split at role
      · split at role
        · next ends => exact ends
        · cases role
      · split at role <;> cases role

theorem uncalled_of_roleOf {following : Option Token}
    (role : roleOf names s previous t following = .shorthand ∨
      roleOf names s previous t following = .reference) (named : t.text ∈ names) :
    textIs "(" following = false := by
  rcases role with role | role
  · have ends := textIn_of_roleOf role
    cases following with
    | none => rfl
    | some f =>
      simp only [textIn, textIs, Option.any_some, beq_eq_false_iff_ne] at ends ⊢
      rintro same
      rw [same] at ends
      cases ends
  · refine Bool.eq_false_iff.2 fun opens => ?_
    unfold roleOf at role
    split at role
    · cases role
    · split at role
      · cases role
      · split at role
        · split at role <;> cases role
        · split at role
          · cases role
          · next quiet => exact quiet ⟨List.contains_iff_mem.2 named, opens⟩

theorem mem_names_of_roleOf {following : Option Token}
    (role : roleOf names s previous t following = .call) :
    t.text ∈ names ∧ textIs "(" following = true := by
  unfold roleOf at role
  split at role
  · cases role
  · split at role
    · cases role
    · split at role
      · split at role <;> cases role
      · split at role
        · next found => exact ⟨List.contains_iff_mem.1 found.1, found.2⟩
        · cases role

theorem name_effect (plain : t.kind = .plainName)
    (named : s.name source names previous t rest = .ok (s', taken)) :
    Effect source names s t rest s' taken := by
  unfold State.name at named
  have simple := roleOf_passive_or_simple names s previous t rest.head?
  split at named
  · cases named
    exact .quiet (Quiet.refl s)
  · cases named
    exact .quiet (Quiet.refl s)
  · next role =>
    cases named
    exact .reported true plain (simple.resolve_left (by simp [role]))
      (fun _ => textIn_of_roleOf role) (uncalled_of_roleOf (Or.inl role)) rfl rfl rfl
  · next role =>
    cases named
    exact .reported false plain (simple.resolve_left (by simp [role])) (by simp)
      (uncalled_of_roleOf (Or.inr role)) rfl rfl rfl
  · next role =>
    split at named
    · cases named
    · next call n found =>
      cases named
      obtain ⟨named, opens⟩ := mem_names_of_roleOf role
      exact .called plain named opens found rfl rfl rfl

theorem plain_effect (step : s.plain source names previous t rest = .ok (s', taken)) :
    Effect source names s t rest s' taken := by
  unfold State.plain at step
  refine Effect.of_quiet_before (Quiet.countConditional s t rest.head?) ?_
  dsimp only at step
  split at step
  · cases step
    exact .quiet ((Quiet.declare _ _).trans (Quiet.pastKey _))
  · split at step
    · next plain =>
      split at step
      · cases step
      · next u n named =>
        cases step
        exact Effect.of_quiet (Quiet.refl _) (name_effect plain named) (Quiet.pastKey u)
    · cases step
      exact .quiet (Quiet.pastKey _)

theorem State.modifyScope_eq_self {s : State} {f : Scope → Scope} (same : f s.scope = s.scope) :
    s.modifyScope f = s := by
  rw [State.modifyScope, same]

theorem countConditional_eq_self {scope : Scope} {following : Option Token}
    (quiet : t.kind = .operator → t.text ≠ "?" ∧ t.text ≠ ":") :
    scope.countConditional t following = scope := by
  unfold Scope.countConditional
  split
  · rfl
  · next operator =>
    obtain ⟨question, colon⟩ := quiet (Decidable.not_not.1 operator)
    simp [question, colon]

/-- The step of a name that is no property key. -/
theorem step_plainName (settled : s.settle previous t = s')
    (value : keyRole s' t rest.head? = .value) (plain : t.kind = .plainName) :
    s.step source names previous t rest =
      match s'.name source names previous t rest with
      | .error defect => .error defect
      | .ok (s, taken) => .ok (s.modifyScope Scope.pastKey, taken) := by
  unfold State.step
  rw [settled]
  dsimp only
  rw [value]
  dsimp only
  rw [if_neg (by simp [plain]), if_neg (by simp [plain]), if_neg (by simp [plain]),
    if_neg (by simp [plain, Token.isPunctuation])]
  unfold State.plain
  rw [State.modifyScope_eq_self (countConditional_eq_self (by simp [plain]))]
  dsimp only
  cases s'.name source names previous t rest <;> rw [if_neg (by simp [plain]), if_pos plain]

/-- All that a step can do to the nodes found. -/
theorem step_effect (step : s.step source names previous t rest = .ok (s', taken)) :
    Effect source names s t rest s' taken := by
  unfold State.step at step
  refine Effect.of_quiet_before (Quiet.settle s previous t) ?_
  generalize s.settle previous t = u at step ⊢
  dsimp only at step
  split at step
  · split at step
    · obtain ⟨left, leaves, same⟩ := map_ok step
      cases same
      obtain ⟨calls, references, marks⟩ := leave_marks leaves
      exact .closed calls marks (Or.inl references)
    · cases step
      exact .opened rfl rfl rfl
  · split at step
    · cases step
      exact .quiet ⟨rfl, rfl, rfl⟩
    · cases step
      exact .quiet (Quiet.refl s')
    · split at step
      · cases step
        exact opening_effect
      · split at step
        · obtain ⟨closed, closes, same⟩ := map_ok step
          cases same
          exact closing_effect closes
        · split at step
          · cases step
            exact .quiet (Quiet.modifyScope u rfl)
          · exact plain_effect step

end Step

end Folio.Script
