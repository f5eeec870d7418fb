import Folio.Proofs.Script.Keeping
import Folio.Proofs.Script.Survivors

/-!
# Parameter lists that are waited for

The pass waits for a parameter list after `function` and after the name of a method. If every such
word is followed by its list, perhaps behind a star and a name, and no name of a method is followed by
the text of a template in place of a bracket, then wherever the pass waits the list comes next
(`Reaches.listComes`).
-/

namespace Folio.Script

/-- Whether a parameter list comes next: at once, behind one token, or behind a star and one. That
token is no helper that is called, unless it is declared. -/
inductive ListComes : Option Token → List Token → Prop
  | here {previous : Option Token} {opener : Token} {rest : List Token}
      (opens : opener.isPunctuation "(" = true) : ListComes previous (opener :: rest)
  | name {previous : Option Token} {name opener : Token} {rest : List Token}
      (silent : kindIs .declaration previous = true ∨ name.text ∉ helperNames)
      (opens : opener.isPunctuation "(" = true) : ListComes previous (name :: opener :: rest)
  | generator {previous : Option Token} {star name opener : Token} {rest : List Token}
      (mark : star.text = "*") (silent : name.text ∉ helperNames)
      (opens : opener.isPunctuation "(" = true) :
      ListComes previous (star :: name :: opener :: rest)

instance (previous : Option Token) (tokens : List Token) : Decidable (ListComes previous tokens) :=
  match tokens with
  | [] => isFalse nofun
  | [t] => decidable_of_iff (t.isPunctuation "(" = true) ⟨.here, fun | .here opens => opens⟩
  | t :: next :: rest =>
    decidable_of_iff (t.isPunctuation "(" = true ∨
        (kindIs .declaration previous = true ∨ t.text ∉ helperNames) ∧
          next.isPunctuation "(" = true ∨
        t.text = "*" ∧ next.text ∉ helperNames ∧
          rest.head?.any (·.isPunctuation "(") = true) <| by
      constructor
      · rintro (opens | ⟨silent, opens⟩ | ⟨mark, silent, opens⟩)
        · exact .here opens
        · exact .name silent opens
        · cases rest with
          | nil => cases opens
          | cons opener rest => exact .generator mark silent opens
      · rintro (opens | ⟨silent, opens⟩ | ⟨mark, silent, opens⟩)
        · exact Or.inl opens
        · exact Or.inr (Or.inl ⟨silent, opens⟩)
        · exact Or.inr (Or.inr ⟨mark, silent, opens⟩)

/-- Whether each `function` that is no member is followed by its parameter list. -/
def FunctionsListed (tokens : List Token) : Prop :=
  ∀ p ∈ spots none tokens, p.token.kind = .declaration → p.token.text = "function" →
    p.isMember = false → ListComes (some p.token) p.rest

instance (tokens : List Token) : Decidable (FunctionsListed tokens) :=
  inferInstanceAs (Decidable (∀ p ∈ spots none tokens, _))

/-- Whether the pass takes what is here for the name of a method. -/
def Visit.namesMethod (v : Visit) : Bool :=
  (v.startsProperty || v.token.kind == .plainName && startsClassMember v.settled v.previous)
    && textIs "(" v.rest.head?

/-- Whether each name of a method is followed by a bracket, not by the text of a template. -/
def MethodsListed (visits : List Visit) : Prop :=
  ∀ v ∈ visits, v.namesMethod = true → punctuationIs "(" v.rest.head? = true

instance (visits : List Visit) : Decidable (MethodsListed visits) :=
  inferInstanceAs (Decidable (∀ v ∈ visits, _))

section Pending

variable {source : List Char} {names : List String} {s v u : State} {previous : Option Token}
  {t : Token} {rest : List Token} {taken : Nat}

/-- Where the waiting for a parameter list comes from; `s` is the state that the token is read in. -/
inductive Awaits (names : List String) (s : State) (previous : Option Token) (t : Token)
    (rest : List Token) : Nat → Prop
  | method (starts : (s.scope.kind = .object ∧ s.scope.expectsKey = true) ∨
        t.kind = .plainName ∧ startsClassMember s previous = true)
      (opens : textIs "(" rest.head? = true) : Awaits names s previous t rest 0
  | function (declares : t.kind = .declaration) (text : t.text = "function")
      (member : isMember previous = false) : Awaits names s previous t rest 0
  | still {taken : Nat} (before : s.pendingParams = true) (other : t.isPunctuation "(" = false)
      (uncalled : taken = 0 ∨ t.kind = .plainName ∧ t.text ∈ names ∧
        kindIs .declaration previous = false) : Awaits names s previous t rest taken

theorem method_of_keyRole {following : Option Token} {method : Bool}
    (role : keyRole s t following = .key method) :
    (s.scope.kind = .object ∧ s.scope.expectsKey = true) ∧ method = textIs "(" following := by
  unfold keyRole at role
  split at role
  · cases role
  · next due =>
    rw [not_or, not_or, not_not] at due
    split at role
    · cases role
      exact ⟨⟨due.1, by simpa using due.2.1⟩, rfl⟩
    · split at role <;> cases role

theorem method_of_roleOf {following : Option Token} {method : Bool}
    (role : roleOf names s previous t following = .classMember method) :
    startsClassMember s previous = true ∧ method = textIs "(" following := by
  unfold roleOf at role
  split at role
  · cases role
  · split at role
    · next starts =>
      cases role
      exact ⟨starts, rfl⟩
    · split at role
      · split at role <;> cases role
      · split at role <;> cases role

theorem not_declared_of_roleOf {following : Option Token}
    (role : roleOf names s previous t following = .call) :
    kindIs .declaration previous = false := by
  refine Bool.eq_false_iff.2 fun declared => ?_
  rw [roleOf, if_pos (by simp [isPassive, declared])] at role
  cases role

theorem pendingParams_of_leave {closer : String} (left : s.leave t closer = .ok u) :
    u.pendingParams = s.pendingParams := by
  obtain ⟨opener, scope, outer, -, -, rfl⟩ := leave_ok.1 left
  rfl

theorem name_awaits (kind : v.scope.kind = s.scope.kind) (same : v.pendingParams = s.pendingParams)
    (plain : t.kind = .plainName) (named : v.name source names previous t rest = .ok (u, taken))
    (pending : u.pendingParams = true) : Awaits names s previous t rest taken := by
  have other : t.isPunctuation "(" = false := by simp [Token.isPunctuation, plain]
  unfold State.name at named
  split at named
  · cases named
    exact .still (same.symm.trans pending) other (Or.inl rfl)
  · next method role =>
    obtain ⟨starts, opens⟩ := method_of_roleOf role
    cases named
    refine .method (Or.inr ⟨plain, ?_⟩) (opens.symm.trans pending)
    rwa [startsClassMember, ← kind]
  · cases named
    exact .still (same.symm.trans pending) other (Or.inl rfl)
  · cases named
    exact .still (same.symm.trans pending) other (Or.inl rfl)
  · next role =>
    split at named
    · cases named
    · cases named
      exact .still (same.symm.trans pending) other
        (Or.inr ⟨plain, (mem_names_of_roleOf role).1, not_declared_of_roleOf role⟩)

theorem plain_awaits (other : t.isPunctuation "(" = false)
    (step : s.plain source names previous t rest = .ok (u, taken)) (pending : u.pendingParams = true) :
    Awaits names s previous t rest taken := by
  have kind := (Keeps.countConditional s t rest.head?).kind
  have same : (s.modifyScope (·.countConditional t rest.head?)).pendingParams = s.pendingParams := rfl
  unfold State.plain at step
  generalize s.modifyScope (·.countConditional t rest.head?) = v at step kind same
  dsimp only at step
  split at step
  · next declares =>
    cases step
    change (v.declare t.text).pendingParams = true at pending
    by_cases function : t.text = "function"
    · exact .function declares.1 function (by simpa using declares.2)
    · refine .still ?_ other (Or.inl rfl)
      rw [← same]
      unfold State.declare at pending
      split at pending
      · exact pending
      · split at pending
        · exact pending
        · exact pending
  · split at step
    · next plain =>
      split at step
      · cases step
      · next w n named =>
        cases step
        exact name_awaits kind same plain named pending
    · cases step
      exact .still (same.symm.trans pending) other (Or.inl rfl)

/-- The pass waits for a parameter list only after a method or `function`, or as it did before. -/
theorem step_awaits (step : s.step source names previous t rest = .ok (u, taken))
    (pending : u.pendingParams = true) :
    Awaits names (s.settle previous t) previous t rest taken := by
  unfold State.step at step
  generalize s.settle previous t = v at step ⊢
  dsimp only at step
  split at step
  · next mark =>
    have other : t.isPunctuation "(" = false := by simp [Token.isPunctuation, mark]
    split at step
    · obtain ⟨left, leaves, same⟩ := map_ok step
      cases same
      exact .still ((pendingParams_of_leave leaves).symm.trans pending) other (Or.inl rfl)
    · cases step
      exact .still pending other (Or.inl rfl)
  · split at step
    · next method role =>
      obtain ⟨starts, opens⟩ := method_of_keyRole role
      cases step
      exact .method (Or.inl starts) (opens.symm.trans pending)
    · next role =>
      cases step
      refine .still pending (Bool.eq_false_iff.2 fun bracket => ?_) (Or.inl rfl)
      simp only [Token.isPunctuation, Bool.and_eq_true, beq_iff_eq] at bracket
      rw [keyRole, if_pos (Or.inr (Or.inr ⟨bracket.1, Or.inl (by
        simp [Token.opens, bracket, Kind.isString, Token.closerOf])⟩))] at role
      cases role
    · split at step
      · cases step
        by_cases bracket : t.text = "("
        · simp [State.opening, bracket, State.enter, State.modifyScope] at pending
        · refine .still ?_ (by simp [Token.isPunctuation, bracket]) (Or.inl rfl)
          unfold State.opening at pending
          dsimp only at pending
          rw [if_neg bracket] at pending
          split at pending <;> exact pending
      · next notOpening =>
        have other : t.isPunctuation "(" = false := by
          refine Bool.eq_false_iff.2 fun bracket => notOpening ?_
          simp only [Token.isPunctuation, Bool.and_eq_true, beq_iff_eq] at bracket
          exact ⟨bracket.1, by simp [Token.opens, bracket, Kind.isString, Token.closerOf]⟩
        split at step
        · obtain ⟨closed, closes, same⟩ := map_ok step
          cases same
          refine .still ?_ other (Or.inl rfl)
          unfold State.closing at closes
          split at closes
          · cases closes
          · next left leaves =>
            have kept := pendingParams_of_leave leaves
            split at closes <;> cases closes <;> exact kept.symm.trans pending
        · split at step
          · cases step
            exact .still pending other (Or.inl rfl)
          · exact plain_awaits other step pending

end Pending

section Reaches

variable {source : List Char} {tokens toCome : List Token} {s : State} {previous : Option Token}

theorem Reaches.suffix {names : List String}
    (reaches : Reaches source names tokens s previous toCome) : toCome <:+ tokens := by
  induction reaches with
  | start => exact List.suffix_refl _
  | step earlier step ih =>
    exact ((List.drop_suffix _ _).trans (List.suffix_cons _ _)).trans ih

/-- The spots of some tokens end with those behind any number of them. -/
theorem exists_spots_drop (previous : Option Token) (t : Token) (rest : List Token) (taken : Nat) :
    ∃ earlier, spots previous (t :: rest) = earlier ++ spots (t :: rest)[taken]? (rest.drop taken) := by
  induction taken generalizing previous t rest with
  | zero => exact ⟨[⟨previous, t, rest⟩], rfl⟩
  | succ taken ih =>
    cases rest with
    | nil => exact ⟨spots previous [t], (List.append_nil _).symm⟩
    | cons next rest =>
      obtain ⟨earlier, same⟩ := ih (some t) next rest
      exact ⟨⟨previous, t, next :: rest⟩ :: earlier, congrArg (_ :: ·) same⟩

theorem Reaches.exists_spots {names : List String}
    (reaches : Reaches source names tokens s previous toCome) :
    ∃ earlier, spots none tokens = earlier ++ spots previous toCome := by
  induction reaches with
  | start => exact ⟨[], rfl⟩
  | @step s s' previous t rest taken earlier step ih =>
    obtain ⟨front, same⟩ := ih
    obtain ⟨more, later⟩ := exists_spots_drop previous t rest taken
    exact ⟨front ++ more, by rw [same, later, List.append_assoc]⟩

/-- Where the pass waits for a parameter list, one comes next. -/
theorem Reaches.listComes (reaches : Reaches source helperNames tokens s previous toCome)
    (listed : FunctionsListed tokens)
    (methods : MethodsListed (State.initial.visits source helperNames none tokens))
    (pending : s.pendingParams = true) : ListComes previous toCome := by
  induction reaches with
  | start => cases pending
  | @step s s' previous t rest taken earlier step ih =>
    cases step_awaits step pending with
    | method starts opens =>
      have names : Visit.namesMethod ⟨⟨previous, t, rest⟩, s⟩ = true := by
        refine Bool.and_eq_true_iff.2 ⟨?_, opens⟩
        simpa [Visit.startsProperty, Visit.settled] using starts
      have bracket := methods _ earlier.mem_visits names
      cases rest with
      | nil => cases bracket
      | cons opener later => exact .here bracket
    | function declares text member =>
      obtain ⟨front, same⟩ := earlier.exists_spots
      exact listed ⟨previous, t, rest⟩ (by rw [same]; simp [spots]) declares text member
    | still before other uncalled =>
      rw [settle_pendingParams] at before
      cases ih before with
      | here opens =>
        rw [opens] at other
        cases other
      | name silent opens =>
        rcases uncalled with rfl | ⟨-, named, undeclared⟩
        · exact .here opens
        · rcases silent with declared | silent
          · rw [declared] at undeclared
            cases undeclared
          · exact absurd named silent
      | generator mark silent opens =>
        rcases uncalled with rfl | ⟨-, named, -⟩
        · exact .name (Or.inr silent) opens
        · rw [mark] at named
          exact absurd named (by decide)

end Reaches

end Folio.Script
