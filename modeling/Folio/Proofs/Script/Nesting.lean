import Folio.Proofs.Script.Effect

/-!
# Nested brackets

Tokens whose brackets match are passed over as one: by the search for the end of a call
(`Nested.takeClosed_append`), by the split of its arguments (`Nested.splitArguments_append`) and by
a run that reports no calls, which comes back to the scope it started in (`Nested.run_append`).
-/

namespace Folio.Script

/-- Tokens whose brackets match. `commas` tells whether commas may stand outside of brackets. -/
inductive Nested : Bool → List Token → Prop
  | nil {commas : Bool} : Nested commas []
  | plain {commas : Bool} {tokens : List Token} (t : Token) (opens : t.opens = false)
      (closes : t.closes = false) (comma : commas = true ∨ t.isPunctuation "," = false)
      (later : Nested commas tokens) : Nested commas (t :: tokens)
  | brackets {commas : Bool} {inside tokens : List Token} (opener close : Token)
      (opening : opener.kind = .punctuation) (closing : close.kind = .punctuation)
      (matching : Token.closerOf opener.text = some close.text) (within : Nested true inside)
      (later : Nested commas tokens) : Nested commas (opener :: inside ++ close :: tokens)

section Brackets

variable {opener close : Token}

theorem closerOf_cases {text closer : String} (matching : Token.closerOf text = some closer) :
    text = "(" ∧ closer = ")" ∨ text = "[" ∧ closer = "]" ∨ text = "\x7b" ∧ closer = "\x7d" := by
  unfold Token.closerOf at matching
  split at matching
  · next round => exact Or.inl ⟨round, (Option.some.inj matching).symm⟩
  · split at matching
    · next square => exact Or.inr (Or.inl ⟨square, (Option.some.inj matching).symm⟩)
    · split at matching
      · next curly => exact Or.inr (Or.inr ⟨curly, (Option.some.inj matching).symm⟩)
      · cases matching

theorem opens_of_matching (opening : opener.kind = .punctuation)
    (matching : Token.closerOf opener.text = some close.text) :
    opener.opens = true ∧ opener.closes = false ∧ opener.isPunctuation "," = false := by
  rcases closerOf_cases matching with ⟨text, -⟩ | ⟨text, -⟩ | ⟨text, -⟩ <;>
    simp [Token.opens, Token.closes, Token.isPunctuation, opening, text, Kind.isString,
      Token.isCloserText, Token.closerOf]

theorem closes_of_matching (closing : close.kind = .punctuation)
    (matching : Token.closerOf opener.text = some close.text) :
    close.opens = false ∧ close.closes = true ∧ close.isPunctuation "," = false := by
  rcases closerOf_cases matching with ⟨-, text⟩ | ⟨-, text⟩ | ⟨-, text⟩ <;>
    simp [Token.opens, Token.closes, Token.isPunctuation, closing, text, Kind.isString,
      Token.isCloserText, Token.closerOf]

end Brackets

section Closed

variable {t : Token} (rest : List Token)

theorem takeClosed_plain (opens : t.opens = false) (closes : t.closes = false) (depth : Nat) :
    takeClosed depth (t :: rest) =
      (takeClosed depth rest).map fun (inside, close) => (t :: inside, close) := by
  cases depth <;> simp [takeClosed, opens, closes]

theorem takeClosed_opener (opens : t.opens = true) (depth : Nat) :
    takeClosed depth (t :: rest) =
      (takeClosed (depth + 1) rest).map fun (inside, close) => (t :: inside, close) := by
  cases depth <;> simp [takeClosed, opens]

theorem takeClosed_closer (opens : t.opens = false) (closes : t.closes = true) (depth : Nat) :
    takeClosed (depth + 1) (t :: rest) =
      (takeClosed depth rest).map fun (inside, close) => (t :: inside, close) := by
  simp [takeClosed, opens, closes]

theorem takeClosed_end (opens : t.opens = false) (closes : t.closes = true) :
    takeClosed 0 (t :: rest) = some ([], t) := by
  simp [takeClosed, opens, closes]

end Closed

namespace Nested

variable {commas : Bool} {tokens tokens' : List Token}

theorem append (nested : Nested commas tokens) (nested' : Nested commas tokens') :
    Nested commas (tokens ++ tokens') := by
  induction nested with
  | nil => exact nested'
  | plain t opens closes comma later ih => exact .plain t opens closes comma (ih nested')
  | brackets opener close opening closing matching within later ihWithin ih =>
    rw [List.append_assoc, List.cons_append]
    exact .brackets opener close opening closing matching within (ih nested')

/-- Commas may stand anywhere. -/
theorem withCommas (nested : Nested commas tokens) : Nested true tokens := by
  induction nested with
  | nil => exact .nil
  | plain t opens closes comma later ih => exact .plain t opens closes (Or.inl rfl) ih
  | brackets opener close opening closing matching within later ihWithin ih =>
    exact .brackets opener close opening closing matching ihWithin ih

theorem takeClosed_append (nested : Nested commas tokens) (depth : Nat) (rest : List Token) :
    takeClosed depth (tokens ++ rest) =
      (takeClosed depth rest).map fun (inside, close) => (tokens ++ inside, close) := by
  induction nested generalizing depth rest with
  | nil => simp
  | plain t opens closes comma later ih =>
    rw [List.cons_append, takeClosed_plain _ opens closes, ih, Option.map_map]
    rfl
  | brackets opener close opening closing matching within later ihWithin ih =>
    obtain ⟨opens, -, -⟩ := opens_of_matching opening matching
    obtain ⟨notOpens, closes, -⟩ := closes_of_matching closing matching
    rw [List.append_assoc, List.cons_append, List.cons_append, takeClosed_opener _ opens, ihWithin,
      takeClosed_closer _ notOpens closes, ih, Option.map_map, Option.map_map, Option.map_map]
    congr 1
    funext found
    simp

/-- The tokens between the brackets of a call. -/
theorem takeClosed_eq (nested : Nested commas tokens) {close : Token} (notOpens : close.opens = false)
    (closes : close.closes = true) (rest : List Token) :
    takeClosed 0 (tokens ++ close :: rest) = some (tokens, close) := by
  rw [nested.takeClosed_append, takeClosed_end _ notOpens closes]
  simp

/-- Nested tokens belong to one argument where commas outside of brackets do not split. -/
theorem splitArguments_append (source : List Char) (nested : Nested commas tokens) (depth : Nat)
    (deep : commas = true → 0 < depth) (group rest : List Token) :
    splitArguments source depth group (tokens ++ rest) =
      splitArguments source depth (tokens.reverse ++ group) rest := by
  induction nested generalizing depth group rest with
  | nil => rfl
  | @plain commas tokens t opens closes comma later ih =>
    have together : ¬(depth = 0 ∧ t.isPunctuation "," = true) := by
      rintro ⟨shallow, isComma⟩
      rcases comma with some | none
      · exact Nat.ne_of_gt (deep some) shallow
      · rw [none] at isComma
        cases isComma
    rw [List.cons_append, splitArguments, opens, closes, if_neg Bool.false_ne_true,
      if_neg Bool.false_ne_true, if_neg together, ih depth deep, List.reverse_cons, List.append_assoc]
    rfl
  | brackets opener close opening closing matching within later ihWithin ih =>
    obtain ⟨opens, -, -⟩ := opens_of_matching opening matching
    obtain ⟨notOpens, closes, notComma⟩ := closes_of_matching closing matching
    rw [List.append_assoc, List.cons_append, List.cons_append, splitArguments, if_pos opens,
      if_neg (by simp), ihWithin _ (fun _ => Nat.succ_pos depth), splitArguments, notOpens, closes,
      if_neg Bool.false_ne_true, if_pos rfl, if_neg (by simp [notComma]), Nat.succ_sub_one, ih depth deep]
    simp

end Nested

/-! ## Runs that report no calls -/

/-- Two states in a scope of the same kind, with the same scopes around it. -/
def Level (s s' : State) : Prop :=
  s'.outer = s.outer ∧ s'.scope.kind = s.scope.kind

namespace Level

variable {s s' s'' : State}

theorem refl (s : State) : Level s s :=
  ⟨rfl, rfl⟩

theorem trans (first : Level s s') (second : Level s' s'') : Level s s'' :=
  ⟨second.1.trans first.1, second.2.trans first.2⟩

theorem settle (s : State) (previous : Option Token) (t : Token) :
    Level s (s.settle previous t) := by
  unfold State.settle
  split <;> exact ⟨rfl, rfl⟩

theorem pastKey (s : State) : Level s (s.modifyScope Scope.pastKey) := by
  refine ⟨rfl, ?_⟩
  change s.scope.pastKey.kind = s.scope.kind
  unfold Scope.pastKey
  split <;> rfl

theorem countConditional (s : State) (t : Token) (following : Option Token) :
    Level s (s.modifyScope (·.countConditional t following)) := by
  refine ⟨rfl, ?_⟩
  change (s.scope.countConditional t following).kind = s.scope.kind
  unfold Scope.countConditional
  split
  · rfl
  · split
    · rfl
    · split <;> rfl

theorem declare (s : State) (text : String) : Level s (s.declare text) := by
  unfold State.declare
  split
  · exact ⟨rfl, rfl⟩
  · split
    · exact ⟨rfl, rfl⟩
    · split <;> exact ⟨rfl, rfl⟩

end Level

/-! ### Brackets -/

section Bracket

variable {source : List Char} {names : List String} {previous : Option Token} {t : Token}

theorem keyRole_bracket (punctuation : t.kind = .punctuation)
    (bracket : t.opens = true ∨ t.closes = true) (s : State) (following : Option Token) :
    keyRole s t following = .value := by
  unfold keyRole
  rw [if_pos (Or.inr (Or.inr ⟨punctuation, bracket⟩))]

theorem step_opener (opening : t.kind = .punctuation) (opens : t.opens = true) (s : State)
    (rest : List Token) :
    s.step source names previous t rest = .ok ((s.settle previous t).opening previous t, 0) := by
  unfold State.step
  dsimp only
  rw [if_neg (by simp [opening]), keyRole_bracket opening (Or.inl opens)]
  exact if_pos ⟨opening, opens⟩

theorem step_closer (closing : t.kind = .punctuation) (opens : t.opens = false)
    (closes : t.closes = true) (s : State) (rest : List Token) :
    s.step source names previous t rest =
      ((s.settle previous t).closing t rest.head?).map (·, 0) := by
  unfold State.step
  dsimp only
  rw [if_neg (by simp [closing]), keyRole_bracket closing (Or.inr closes)]
  dsimp only
  rw [if_neg (by simp [opens]), if_pos ⟨closing, closes⟩]

theorem openerKind_ne_substitution (s : State) (text : String) (previous : Option Token) :
    openerKind s text previous ≠ .substitution := by
  unfold openerKind
  cases previous
  all_goals
    repeat' refine iteInduction (motive := (· ≠ ScopeKind.substitution)) (fun _ => ?_) fun _ => ?_
    all_goals nofun

theorem openerKind_ne_classBody {s : State} {text : String}
    (noClass : text = "\x7b" → s.pendingClass = false) (previous : Option Token) :
    openerKind s text previous ≠ .classBody := by
  have other : ¬(text = "\x7b" ∧ s.pendingClass = true) := by
    rintro ⟨brace, pending⟩
    rw [noClass brace] at pending
    cases pending
  unfold openerKind
  rw [if_neg other]
  cases previous
  all_goals
    repeat' refine iteInduction (motive := (· ≠ ScopeKind.classBody)) (fun _ => ?_) fun _ => ?_
    all_goals nofun

/-- An opening bracket goes into a scope with the current one around it. -/
theorem opening_level (s : State) (previous : Option Token) (t : Token) :
    ∃ scope, (s.opening previous t).outer = (t, scope) :: s.outer ∧
      scope.kind = s.scope.kind ∧ (s.opening previous t).scope.kind ≠ .substitution := by
  have entered (u : State) (level : Level s u) :
      ∃ scope, ((u.modifyScope Scope.pastKey).enter t (openerKind s t.text previous)).outer =
          (t, scope) :: s.outer ∧ scope.kind = s.scope.kind ∧
        ((u.modifyScope Scope.pastKey).enter t (openerKind s t.text previous)).scope.kind ≠
          .substitution := by
    obtain ⟨outer, kind⟩ := level.trans (Level.pastKey u)
    exact ⟨_, congrArg (_ :: ·) outer, kind, openerKind_ne_substitution s t.text previous⟩
  unfold State.opening
  dsimp only
  split
  · exact entered _ ⟨rfl, rfl⟩
  · split
    · exact entered _ ⟨rfl, rfl⟩
    · exact entered _ ⟨rfl, rfl⟩

theorem leave_eq {s : State} {opener : Token} {scope : Scope} {outer : List (Token × Scope)}
    (around : s.outer = (opener, scope) :: outer) (code : s.scope.kind ≠ .substitution)
    (matching : Token.closerOf opener.text = some t.text) :
    s.leave t t.text = .ok { s with scope, outer } := by
  refine leave_ok.2 ⟨opener, scope, outer, around, ?_, rfl⟩
  rw [Scope.closer, if_neg code, matching]
  rfl

/-- A closing bracket that matches comes back to the scope around. -/
theorem closing_level {s : State} {opener : Token} {scope : Scope} {outer : List (Token × Scope)}
    (around : s.outer = (opener, scope) :: outer) (code : s.scope.kind ≠ .substitution)
    (matching : Token.closerOf opener.text = some t.text) (following : Option Token) :
    ∃ s', s.closing t following = .ok s' ∧ s'.outer = outer ∧ s'.scope = scope := by
  unfold State.closing
  rw [leave_eq around code matching]
  dsimp only
  split
  · exact ⟨_, rfl, rfl, rfl⟩
  · exact ⟨_, rfl, rfl, rfl⟩

end Bracket

/-! ### Other tokens -/

/-- Whether the pass takes a token for the name of a function whose calls are reported. -/
def State.MeetsCall (names : List String) (s : State) (previous : Option Token) (t : Token)
    (following : Option Token) : Prop :=
  t.kind = .plainName ∧ keyRole (s.settle previous t) t following = .value ∧
    roleOf names (s.settle previous t) previous t following = .call

section Run

variable {source : List Char} {names : List String} {previous : Option Token} {t : Token}

theorem not_meetsCall_nil (s : State) (previous : Option Token) (t : Token)
    (following : Option Token) : ¬ s.MeetsCall [] previous t following := by
  rintro ⟨-, -, role⟩
  unfold roleOf at role
  split at role
  · cases role
  · split at role
    · cases role
    · split at role
      · split at role <;> cases role
      · simp at role

theorem name_level {s : State} {rest : List Token}
    (uncalled : roleOf names s previous t rest.head? ≠ .call) :
    ∃ s', s.name source names previous t rest = .ok (s', 0) ∧ Level s s' := by
  unfold State.name
  split
  · exact ⟨_, rfl, rfl, rfl⟩
  · exact ⟨_, rfl, rfl, rfl⟩
  · exact ⟨_, rfl, rfl, rfl⟩
  · exact ⟨_, rfl, rfl, rfl⟩
  · next call => exact absurd call uncalled

theorem plain_level {s : State} {rest : List Token}
    (uncalled : t.kind = .plainName → roleOf names s previous t rest.head? ≠ .call) :
    ∃ s', s.plain source names previous t rest = .ok (s', 0) ∧ Level s s' := by
  unfold State.plain
  have counted := Level.countConditional s t rest.head?
  have same : t.kind = .plainName → s.modifyScope (·.countConditional t rest.head?) = s :=
    fun plain => State.modifyScope_eq_self (countConditional_eq_self (by simp [plain]))
  generalize s.modifyScope (·.countConditional t rest.head?) = u at counted same ⊢
  dsimp only
  split
  · exact ⟨_, rfl, counted.trans ((Level.declare u t.text).trans (Level.pastKey _))⟩
  · split
    · next plain =>
      obtain ⟨s', named, level⟩ := @name_level source names previous t s rest (uncalled plain)
      rw [same plain, named]
      exact ⟨_, rfl, level.trans (Level.pastKey s')⟩
    · exact ⟨_, rfl, counted.trans (Level.pastKey u)⟩

/-- A token that is no bracket leaves the scope as it is. -/
theorem step_level (opens : t.opens = false) (closes : t.closes = false)
    (code : t.kind ≠ .substitution) {s : State} {rest : List Token}
    (uncalled : ¬ s.MeetsCall names previous t rest.head?) :
    ∃ s', s.step source names previous t rest = .ok (s', 0) ∧ Level s s' := by
  unfold State.MeetsCall at uncalled
  unfold State.step
  have settled := Level.settle s previous t
  generalize s.settle previous t = u at settled uncalled ⊢
  dsimp only
  rw [if_neg code]
  split
  · exact ⟨_, rfl, settled⟩
  · exact ⟨_, rfl, settled⟩
  · next value =>
    rw [if_neg (by simp [opens]), if_neg (by simp [closes])]
    split
    · exact ⟨_, rfl, settled⟩
    · obtain ⟨s', step, level⟩ : ∃ s', u.plain source names previous t rest = .ok (s', 0) ∧
          Level u s' := plain_level fun plain call => uncalled ⟨plain, value, call⟩
      exact ⟨s', step, settled.trans level⟩

theorem run_cons {s s' : State} {rest : List Token}
    (step : s.step source names previous t rest = .ok (s', 0)) :
    s.run source names previous (t :: rest) = s'.run source names (some t) rest := by
  rw [State.run, step]
  rfl

/-- A run that reports no calls passes over nested tokens and comes back to its scope. -/
theorem Nested.run_append {commas : Bool} {tokens : List Token} (nested : Nested commas tokens)
    (code : ∀ t ∈ tokens, t.kind ≠ .substitution) (s : State) (previous : Option Token)
    (rest : List Token) :
    ∃ s' last, s.run source [] previous (tokens ++ rest) = s'.run source [] last rest ∧
      Level s s' := by
  induction nested generalizing s previous rest with
  | nil => exact ⟨s, previous, rfl, Level.refl s⟩
  | @plain commas tokens t opens closes comma later ih =>
    obtain ⟨u, step, level⟩ := @step_level source [] previous t opens closes (code t (by simp)) s
      (tokens ++ rest) (not_meetsCall_nil s previous t _)
    obtain ⟨s', last, ran, level'⟩ :=
      ih (fun t' member => code t' (List.mem_cons_of_mem t member)) u (some t) rest
    exact ⟨s', last, (run_cons step).trans ran, level.trans level'⟩
  | @brackets commas inside tokens opener close opening closing matching within later ihWithin ih =>
    have codeInside : ∀ t ∈ inside, t.kind ≠ .substitution :=
      fun t member => code t (by simp [member])
    have codeLater : ∀ t ∈ tokens, t.kind ≠ .substitution :=
      fun t member => code t (by simp [member])
    obtain ⟨opens, -, -⟩ := opens_of_matching opening matching
    obtain ⟨notOpens, closes, -⟩ := closes_of_matching closing matching
    obtain ⟨settledOuter, settledKind⟩ := Level.settle s previous opener
    obtain ⟨scope, outer, kind, plain⟩ := opening_level (s.settle previous opener) previous opener
    obtain ⟨u, last, ran, uOuter, uKind⟩ := ihWithin codeInside
      ((s.settle previous opener).opening previous opener) (some opener)
      (close :: (tokens ++ rest))
    obtain ⟨uSettledOuter, uSettledKind⟩ := Level.settle u last close
    obtain ⟨v, closed, vOuter, vScope⟩ := closing_level
      (uSettledOuter.trans (uOuter.trans outer)) (by rwa [uSettledKind, uKind]) matching
      (tokens ++ rest).head?
    have step : u.step source [] last close (tokens ++ rest) = .ok (v, 0) := by
      rw [step_closer closing notOpens closes, closed]
      rfl
    obtain ⟨s', last', ran', level⟩ := ih codeLater v (some close) rest
    refine ⟨s', last', ?_, Level.trans ⟨?_, ?_⟩ level⟩
    · rw [List.append_assoc, List.cons_append, List.cons_append,
        run_cons (step_opener opening opens s _), ran, run_cons step, ran']
    · rw [vOuter, settledOuter]
    · rw [vScope, kind, settledKind]

end Run

end Folio.Script
