import Folio.Proofs.Script.Twin

/-!
# Literals in place of what is reported

A name that the pass reports as a reference or as a call stands where no key of a property is due, so
that a literal in its place leaves the two passes side by side (`State.Twin.step_literal`,
`State.Twin.step_call`). The shorthand of a property becomes a key, and after a key no parameter list
is waited for: the passes stay together if none was waited for before (`State.Twin.run_labelled`).
-/

namespace Folio.Script

/-! ## Names that are reported -/

section Reported

variable {source : List Char} {names : List String} {s u : State} {previous : Option Token}
  {t : Token} {rest : List Token} {taken : Nat}

theorem keyed_of_roleOf {following : Option Token}
    (role : roleOf names s previous t following = .shorthand) :
    s.scope.kind = .object ∧ s.scope.expectsKey = true := by
  unfold roleOf at role
  split at role
  · cases role
  · split at role
    · cases role
    · split at role
      · next keyed => exact keyed
      · split at role <;> cases role

theorem keyless_of_roleOf {following : Option Token}
    (role : roleOf names s previous t following = .reference ∨
      roleOf names s previous t following = .call) : Keyless s := by
  intro object
  refine Bool.eq_false_iff.2 fun due => ?_
  unfold roleOf at role
  split at role
  · simp at role
  · split at role
    · simp at role
    · rw [if_pos ⟨object, due⟩] at role
      split at role <;> simp at role

/-- What the pass does with a name that it reports. -/
theorem name_of_heard (plain : t.kind = .plainName)
    (step : s.step source names previous t rest = .ok (u, taken))
    (heard : u.references ≠ s.references ∨ taken ≠ 0) :
    ∃ v, (s.settle previous t).name source names previous t rest = .ok (v, taken) ∧
      u = v.modifyScope Scope.pastKey := by
  have same := (Quiet.settle s previous t).2.1
  cases role : keyRole (s.settle previous t) t rest.head? with
  | value =>
    rw [step_plainName rfl role plain] at step
    split at step
    · cases step
    · next v n named =>
      cases step
      exact ⟨v, named, rfl⟩
  | key method =>
    unfold State.step at step
    dsimp only at step
    rw [if_neg (by simp [plain]), role] at step
    cases step
    exact absurd heard (by simpa [State.modifyScope] using same)
  | modifier =>
    unfold State.step at step
    dsimp only at step
    rw [if_neg (by simp [plain]), role] at step
    cases step
    exact absurd heard (by simpa using same)

/-- A name that is reported as a reference. -/
theorem reference_of_reported (plain : t.kind = .plainName) {shorthand : Bool}
    (step : s.step source names previous t rest = .ok (u, taken))
    (reported : u.references = ⟨t.text, t.start, shorthand⟩ :: s.references) :
    u = { s.settle previous t with references := ⟨t.text, t.start, shorthand⟩ :: s.references
        }.modifyScope Scope.pastKey ∧
      roleOf names (s.settle previous t) previous t rest.head? =
        if shorthand then .shorthand else .reference := by
  have same := (Quiet.settle s previous t).2.1
  obtain ⟨v, named, rfl⟩ := name_of_heard plain step (Or.inl (by simp [reported]))
  change v.references = _ at reported
  unfold State.name at named
  split at named
  · cases named
    rw [same] at reported
    exact absurd reported (List.cons_ne_self _ _).symm
  · cases named
    rw [same] at reported
    exact absurd reported (List.cons_ne_self _ _).symm
  · next role =>
    cases named
    injection reported with first
    injection first with _ _ kind
    rw [same, ← kind]
    exact ⟨rfl, role⟩
  · next role =>
    cases named
    injection reported with first
    injection first with _ _ kind
    rw [same, ← kind]
    exact ⟨rfl, role⟩
  · split at named
    · cases named
    · cases named
      rw [same] at reported
      exact absurd reported (List.cons_ne_self _ _).symm

/-- A name that is reported as a call. -/
theorem call_of_taken (plain : t.kind = .plainName)
    (step : s.step source names previous t rest = .ok (u, taken)) (some : taken ≠ 0) :
    ∃ call, callAt source t rest = .ok (call, taken) ∧
      u = { s.settle previous t with calls := call :: s.calls }.modifyScope Scope.pastKey ∧
      roleOf names (s.settle previous t) previous t rest.head? = .call := by
  have same := (Quiet.settle s previous t).1
  obtain ⟨v, named, rfl⟩ := name_of_heard plain step (Or.inr some)
  unfold State.name at named
  split at named
  · cases named
    exact absurd rfl some
  · cases named
    exact absurd rfl some
  · cases named
    exact absurd rfl some
  · cases named
    exact absurd rfl some
  · next role =>
    split at named
    · cases named
    · next call taken read =>
      cases named
      exact ⟨call, read, by rw [same], role⟩

end Reported

/-! ## Literals in place -/

namespace State.Twin

variable {Gone : Reference → Prop} {s s' u : State} (twin : s.Twin Gone s')
  {source : List Char} (source' : List Char) {names : List String} {previous previous' : Option Token}
  (alike : Alike previous previous') {t q : Token} (plain : t.kind = .plainName)
  (quoted : q.IsQuote) {rest : List Token} (rest' : List Token)

theorem step_quote {s : State} (keyless : Keyless s) (quoted : q.IsQuote) :
    s.step source names previous q rest =
      .ok ((s.settle previous q).modifyScope Scope.pastKey, 0) := by
  have bracket : q.opens = false ∧ q.closes = false := by
    simp [Token.opens, Token.closes, quoted.1, Kind.isString]
  rw [step_silent ((keyless.settle previous q).keyRole_eq _ _) bracket
    (by simp [Token.isPunctuation, quoted.1]) (by simp [quoted.1])]
  simp only [countConditional_eq_self (t := q) (by simp [quoted.1])]

include twin alike plain quoted

/-- A literal after a state that differs from another in what a name adds. -/
theorem quote (names : List String) (broken : q.afterBreak = t.afterBreak)
    (keyless : Keyless (s.settle previous t)) :
    ∃ u', s'.step source' names previous' q rest' = .ok (u', 0) ∧
      ((s.settle previous t).modifyScope Scope.pastKey).Twin Gone u' := by
  have goesOn : q.goesOn = t.goesOn := by
    rw [Token.goesOn_eq_false (by simp [quoted.1]), Token.goesOn_eq_false (by simp [plain])]
  have keyless' : Keyless s' := by
    intro object
    rw [twin.scope.kind] at object
    rw [twin.scope.expectsKey]
    simpa using keyless (by simpa using object)
  exact ⟨_, step_quote keyless' quoted, (twin.settle alike broken goesOn).pastKey⟩

/-- A literal in place of a reference. -/
theorem step_literal (broken : q.afterBreak = t.afterBreak) (gone : Gone ⟨t.text, t.start, false⟩)
    (step : s.step source names previous t rest = .ok (u, 0))
    (reported : u.references = ⟨t.text, t.start, false⟩ :: s.references) :
    ∃ u', s'.step source' names previous' q rest' = .ok (u', 0) ∧ u.Twin Gone u' := by
  obtain ⟨rfl, role⟩ := reference_of_reported plain step reported
  obtain ⟨u', step', twin'⟩ :=
    twin.quote source' alike plain quoted rest' names broken (keyless_of_roleOf (Or.inl role))
  have references : Left Gone s.references u'.references := by
    rw [← (Quiet.settle s previous t).2.1]
    exact twin'.references
  exact ⟨u', step', { twin' with references := .lost gone references }⟩

/-- A literal in place of a call. -/
theorem step_call (broken : q.afterBreak = t.afterBreak) {taken : Nat} (some : taken ≠ 0)
    (step : s.step source names previous t rest = .ok (u, taken)) :
    ∃ u', s'.step source' names previous' q rest' = .ok (u', 0) ∧ u.Twin Gone u' := by
  obtain ⟨call, -, rfl, role⟩ := call_of_taken plain step some
  obtain ⟨u', step', twin'⟩ :=
    twin.quote source' alike plain quoted rest' names broken (keyless_of_roleOf (Or.inr role))
  exact ⟨u', step', { twin' with }⟩

end State.Twin

theorem run_of_step {source : List Char} {names : List String} {s s' : State}
    {previous : Option Token} {t : Token} {rest : List Token}
    (step : s.step source names previous t rest = .ok (s', 0)) :
    s.run source names previous (t :: rest) = s'.run source names (some t) rest := by
  rw [State.run, step]
  rfl

/-- Between a token and the next one in its line no list of declarations ends. -/
theorem settle_of_unbroken {s : State} {p t : Token} (mark : p.kind ≠ .punctuation)
    (unbroken : t.afterBreak = false) : s.settle (some p) t = s := by
  have goesOn : endsDeclaration (some p) t = false := by
    simp [endsDeclaration, Token.isPunctuation, mark, unbroken]
  rw [State.settle, goesOn, Bool.and_false, if_neg Bool.false_ne_true]

/-- The state behind the key of a property, with some count of conditionals. -/
def State.behindKey (s : State) (conditionals : Nat) : State :=
  { s with scope := { s.scope with expectsKey := false, conditionals }, pendingParams := false }

theorem keyless_behindKey (s : State) (n : Nat) : Keyless (s.behindKey n) :=
  fun _ => rfl

theorem pastKey_behindKey (s : State) (n : Nat) :
    (s.behindKey n).modifyScope Scope.pastKey = s.behindKey n := by
  refine State.modifyScope_eq_self ?_
  unfold Scope.pastKey
  split <;> rfl

theorem countConditional_behindKey (s : State) (n : Nat) (t : Token) (following : Option Token) :
    ∃ m, (s.behindKey n).modifyScope (·.countConditional t following) = s.behindKey m := by
  unfold State.modifyScope Scope.countConditional
  split
  · exact ⟨n, rfl⟩
  · split
    · exact ⟨n + 1, rfl⟩
    · split
      · exact ⟨n - 1, rfl⟩
      · exact ⟨n, rfl⟩

namespace State.Twin

variable {Gone : Reference → Prop} {s s' u : State} {source : List Char} {names : List String}
  {previous previous' : Option Token} {t t' colon q : Token} {rest : List Token}

/-- A key, a colon and a literal in place of a shorthand, where no parameter list is waited for. -/
theorem run_labelled (twin : s.Twin Gone s') (source' : List Char) (alike : Alike previous previous')
    (plain : t.kind = .plainName) (again : t'.Restates t) (mark : colon.text = ":")
    (other : colon.kind = .operator) (quoted : q.IsQuote)
    (unbroken : colon.afterBreak = false ∧ q.afterBreak = false)
    (gone : Gone ⟨t.text, t.start, true⟩) (rest' : List Token) (unawaited : s.pendingParams = false)
    (step : s.step source names previous t rest = .ok (u, 0))
    (reported : u.references = ⟨t.text, t.start, true⟩ :: s.references) :
    ∃ u', s'.run source' names previous' (t' :: colon :: q :: rest') =
      u'.run source' names (some q) rest' ∧ u.Twin Gone u' := by
  obtain ⟨rfl, role⟩ := reference_of_reported plain step reported
  obtain ⟨object, due⟩ := keyed_of_roleOf role
  have settled := twin.settle alike again.afterBreak again.goesOn_eq
  have references : Left Gone s.references (s'.settle previous' t').references := by
    rw [← (Quiet.settle s previous t).2.1]
    exact settled.references
  have params : (s.settle previous t).pendingParams = false := by simpa using unawaited
  generalize s.settle previous t = v at settled object due params
  generalize found : s'.settle previous' t' = v' at settled references
  have plain' : t'.kind = .plainName := again.kind.trans plain
  have object' : v'.scope.kind = .object := settled.scope.kind.trans object
  have key : s'.step source' names previous' t' (colon :: q :: rest') =
      .ok (v'.behindKey v'.scope.conditionals, 0) := by
    have role : keyRole v' t' (some colon) = .key false := by
      simp [keyRole, object', settled.scope.expectsKey, due, plain', textIn, textIs, mark]
    unfold State.step
    rw [found]
    dsimp only [List.head?_cons]
    rw [if_neg (by simp [plain']), role]
    rfl
  obtain ⟨n, counted⟩ := countConditional_behindKey v' v'.scope.conditionals colon (some q)
  have sign : (v'.behindKey v'.scope.conditionals).step source' names (some t') colon (q :: rest') =
      .ok (v'.behindKey n, 0) := by
    have bracket : colon.opens = false ∧ colon.closes = false := by
      simp [Token.opens, Token.closes, Token.closerOf, Token.isCloserText, mark]
    rw [step_silent (((keyless_behindKey _ _).settle _ _).keyRole_eq _ _) bracket
      (by simp [Token.isPunctuation, other]) (by simp [other]),
      settle_of_unbroken (by simp [plain']) unbroken.1]
    have past := (congrArg (·.modifyScope Scope.pastKey) counted).trans (pastKey_behindKey v' n)
    exact congrArg (fun w => Except.ok (w, 0)) past
  have value : (v'.behindKey n).step source' names (some colon) q rest' =
      .ok (v'.behindKey n, 0) := by
    rw [step_quote (keyless_behindKey _ _) quoted, settle_of_unbroken (by simp [other]) unbroken.2,
      pastKey_behindKey]
  refine ⟨_, (run_of_step key).trans ((run_of_step sign).trans (run_of_step value)), ?_⟩
  refine { settled with scope := ?_, pendingParams := params.symm, references := .lost gone references }
  have past : v.scope.pastKey = { v.scope with expectsKey := false } := if_pos object
  change v.scope.pastKey.Twin Gone _
  rw [past]
  exact { settled.scope with expectsKey := rfl, conditionals := fun other => absurd object other }

end State.Twin

end Folio.Script
