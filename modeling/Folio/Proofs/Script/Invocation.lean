import Folio.Proofs.Script.Placement
import Folio.Script.Inject

/-!
# Invocations of helpers

An invocation is the name of a path helper before an opening bracket. `effect_of_invokes` says where
the pass reports a call of it: wherever it is no member, nothing that the pass takes for a binding and
no beginning of a property or of a class member.
-/

namespace Folio.Script

/-! ## Spots -/

/-- A token with the one before and those that follow. -/
structure Spot where
  previous : Option Token
  token : Token
  rest : List Token
  deriving DecidableEq, Repr

def spots (previous : Option Token) : List Token → List Spot
  | [] => []
  | t :: rest => ⟨previous, t, rest⟩ :: spots (some t) rest

/-- Whether a name after `previous` is that of a declared function. -/
def declaresFunction (previous : Option Token) : Bool :=
  previous.any fun word => word.kind == .declaration && word.text == "function"

namespace Spot

def invokes (p : Spot) : Bool :=
  p.token.kind == .plainName && helperNames.contains p.token.text && textIs "(" p.rest.head?

def isMember (p : Spot) : Bool :=
  Script.isMember p.previous

def isDeclared (p : Spot) : Bool :=
  declaresFunction p.previous

/-- Whether a brace opens behind the bracket that closes. -/
def hasBody (p : Spot) : Bool :=
  match takeClosed 0 p.rest.tail with
  | none => false
  | some (inside, _) => textIs "\x7b" (p.rest.drop (inside.length + 2)).head?

theorem invokes_iff {p : Spot} : p.invokes = true ↔
    p.token.kind = .plainName ∧ p.token.text ∈ helperNames ∧ textIs "(" p.rest.head? = true := by
  simp only [invokes, Bool.and_eq_true, beq_iff_eq, List.contains_iff_mem, and_assoc]

end Spot

theorem exists_of_opens {tokens : List Token} (opens : textIs "(" tokens.head? = true) :
    ∃ opener rest, tokens = opener :: rest ∧ opener.text = "(" := by
  cases tokens with
  | nil => cases opens
  | cons opener rest => exact ⟨opener, rest, rfl, by simpa [textIs] using opens⟩

/-- Where the names of helpers stand before an opening bracket. -/
def invocations (tokens : List Token) : List Spot :=
  (spots none tokens).filter Spot.invokes

/-! ## Visits -/

/-- A spot with the state in which the pass comes to it. -/
structure Visit extends Spot where
  state : State
  deriving DecidableEq, Repr

namespace Visit

def settled (v : Visit) : State :=
  v.state.settle v.previous v.token

def startsProperty (v : Visit) : Bool :=
  v.settled.scope.kind == .object && v.settled.scope.expectsKey

def startsMember (v : Visit) : Bool :=
  v.startsProperty || startsClassMember v.settled v.previous

/-- Whether the pass takes a name here for one that is bound. -/
def isBinding (v : Visit) : Bool :=
  kindIs .declaration v.previous || textIn ["import", "as"] v.previous
    || (v.settled.scope.declaring && punctuationIs "," v.previous)
    || v.settled.scope.kind == .pattern || v.settled.scope.kind == .params

/-- Whether a method of an object or of a class is defined. -/
def isMethod (v : Visit) : Bool :=
  v.startsMember && v.hasBody

/-- Whether a member, a declared function or a method is named. -/
def isName (v : Visit) : Bool :=
  v.isMember || v.isDeclared || v.isMethod

/-- Whether the pass reports no call of an invocation here. -/
def isSilent (v : Visit) : Bool :=
  v.isMember || v.isBinding || v.startsMember

/-- Whether the pass takes an invocation that is a call for something else. -/
def isOverlooked (v : Visit) : Bool :=
  v.isSilent && !v.isName

theorem isSilent_of_isName {v : Visit} (name : v.isName = true) : v.isSilent = true := by
  unfold isName at name
  rw [Bool.or_eq_true, Bool.or_eq_true] at name
  rcases name with (member | declared) | method
  · simp [isSilent, member]
  · obtain ⟨word, found, isFunction⟩ := (Option.any_eq_true _ _).1 declared
    have kind : kindIs .declaration v.previous = true := by
      rw [found]
      exact (Bool.and_eq_true_iff.1 isFunction).1
    simp [isSilent, isBinding, kind]
  · simp [isSilent, (Bool.and_eq_true_iff.1 method).1]

end Visit

/-- The visits of the pass over some tokens. -/
def State.visits (source : List Char) (names : List String) (s : State) (previous : Option Token) :
    List Token → List Visit
  | [] => []
  | t :: rest =>
    match s.step source names previous t rest with
    | .error _ => [⟨⟨previous, t, rest⟩, s⟩]
    | .ok (s', taken) =>
      ⟨⟨previous, t, rest⟩, s⟩ :: s'.visits source names (t :: rest)[taken]? (rest.drop taken)
termination_by tokens => tokens.length
decreasing_by simp only [List.length_drop, List.length_cons]; omega

section Visits

variable {source : List Char} {names : List String} {s s' : State} {previous : Option Token}
  {t : Token} {rest tokens : List Token} {taken : Nat}

theorem visits_cons (step : s.step source names previous t rest = .ok (s', taken)) :
    s.visits source names previous (t :: rest) = ⟨⟨previous, t, rest⟩, s⟩ ::
      s'.visits source names (t :: rest)[taken]? (rest.drop taken) := by
  rw [State.visits, step]

theorem length_lt_of_mem_visits {v : Visit} (member : v ∈ s.visits source names previous tokens) :
    v.rest.length < tokens.length := by
  fun_induction State.visits source names s previous tokens with
  | case1 => cases member
  | case2 s previous t rest defect step =>
    cases List.mem_singleton.1 member
    exact Nat.lt_succ_self _
  | case3 s previous t rest s' taken step ih =>
    rcases List.mem_cons.1 member with rfl | member
    · exact Nat.lt_succ_self _
    · have shorter := ih member
      rw [List.length_drop] at shorter
      rw [List.length_cons]
      omega

/-- The pass comes to each token at most once. -/
theorem eq_of_mem_visits {v w : Visit} (memberV : v ∈ s.visits source names previous tokens)
    (memberW : w ∈ s.visits source names previous tokens)
    (same : v.rest.length = w.rest.length) : v = w := by
  fun_induction State.visits source names s previous tokens with
  | case1 => cases memberV
  | case2 s previous t rest defect step =>
    rw [List.mem_singleton.1 memberV, List.mem_singleton.1 memberW]
  | case3 s previous t rest s' taken step ih =>
    have shorter {u : Visit} (member : u ∈ s'.visits source names (t :: rest)[taken]?
        (rest.drop taken)) : u.rest.length < rest.length := by
      have bound := length_lt_of_mem_visits member
      rw [List.length_drop] at bound
      omega
    rcases List.mem_cons.1 memberV with rfl | memberV <;>
      rcases List.mem_cons.1 memberW with rfl | memberW
    · rfl
    · exact absurd same (Nat.ne_of_gt (shorter memberW))
    · exact absurd same (Nat.ne_of_lt (shorter memberV))
    · exact ih memberV memberW

/-- The visits of a pass that has come to some tokens end with those from there on. -/
theorem Reaches.visits {toCome : List Token}
    (reaches : Reaches source names tokens s previous toCome) :
    ∃ earlier, State.initial.visits source names none tokens =
      earlier ++ s.visits source names previous toCome := by
  induction reaches with
  | start => exact ⟨[], rfl⟩
  | @step s s' previous t rest taken earlier step ih =>
    obtain ⟨visits, same⟩ := ih
    refine ⟨visits ++ [⟨⟨previous, t, rest⟩, s⟩], ?_⟩
    rw [same, visits_cons step, List.append_assoc]
    rfl

theorem Reaches.mem_visits (reaches : Reaches source names tokens s previous (t :: rest)) :
    ⟨⟨previous, t, rest⟩, s⟩ ∈ State.initial.visits source names none tokens := by
  obtain ⟨earlier, same⟩ := reaches.visits
  rw [same]
  refine List.mem_append_right _ ?_
  rw [State.visits]
  split <;> exact List.mem_cons_self

theorem Reaches.unique {s₂ : State} {previous₂ : Option Token}
    (first : Reaches source names tokens s previous (t :: rest))
    (second : Reaches source names tokens s₂ previous₂ (t :: rest)) :
    s = s₂ ∧ previous = previous₂ := by
  have same := eq_of_mem_visits first.mem_visits second.mem_visits rfl
  injection same with spot state
  injection spot with previous
  exact ⟨state, previous⟩

end Visits

/-! ## What the pass does at an invocation -/

theorem isSimpleName_of_mem {name : String} (helper : name ∈ helperNames) :
    isSimpleName name = true := by
  have listed : ∀ name ∈ helperNames, isSimpleName name = true := by decide
  exact listed name helper

section Invocation

variable {source : List Char} {v : Visit} {s' : State} {taken : Nat}

theorem roleOf_of_invokes (invokes : v.invokes = true) :
    roleOf helperNames v.settled v.previous v.token v.rest.head? =
      if v.isMember || v.isBinding then .passive
      else if startsClassMember v.settled v.previous then .classMember true
      else if v.startsProperty then .passive
      else .call := by
  obtain ⟨-, named, opens⟩ := Spot.invokes_iff.1 invokes
  obtain ⟨opener, rest, found, bracket⟩ := exists_of_opens opens
  have passive : isPassive v.settled v.previous v.token v.rest.head? =
      (v.isMember || v.isBinding) := by
    simp [isPassive, isSimpleName_of_mem named, found, textIs, bracket, Spot.isMember,
      Visit.isBinding, Bool.or_assoc]
  have ends : textIn [",", "\x7d"] v.rest.head? = false := by
    simp [found, textIn, bracket]
  have listed : helperNames.contains v.token.text = true := List.contains_iff_mem.2 named
  have property : (v.settled.scope.kind = .object ∧ v.settled.scope.expectsKey = true) ↔
      v.startsProperty = true := by
    simp [Visit.startsProperty]
  unfold roleOf
  rw [passive, ends]
  simp only [listed, opens, property, and_self, if_true, Bool.false_eq_true, if_false]

/-- The pass takes an invocation for a call unless it is silent there. -/
theorem effect_of_invokes (invokes : v.invokes = true)
    (step : v.state.step source helperNames v.previous v.token v.rest = .ok (s', taken)) :
    v.isSilent = true ∧ taken = 0 ∨ v.isSilent = false ∧
      ∃ call, callAt source v.token v.rest = .ok (call, taken) ∧ call ∈ s'.calls := by
  obtain ⟨plain, named, opens⟩ := Spot.invokes_iff.1 invokes
  obtain ⟨opener, rest, found, bracket⟩ := exists_of_opens opens
  have settled : v.state.settle v.previous v.token = v.settled := rfl
  cases key : v.startsProperty with
  | true =>
    refine Or.inl ⟨by simp [Visit.isSilent, Visit.startsMember, key], ?_⟩
    have role : keyRole v.settled v.token v.rest.head? = .key true := by
      simp only [Visit.startsProperty, Bool.and_eq_true, beq_iff_eq] at key
      simp [keyRole, key.1, key.2, plain, found, textIn, textIs, bracket]
    unfold State.step at step
    rw [settled] at step
    dsimp only at step
    rw [if_neg (by simp [plain]), role] at step
    cases step
    rfl
  | false =>
    have value : keyRole v.settled v.token v.rest.head? = .value := by
      simp only [Visit.startsProperty, Bool.and_eq_false_iff, beq_eq_false_iff_ne] at key
      rcases key with key | key <;> simp [keyRole, key]
    rw [step_plainName settled value plain, State.name, roleOf_of_invokes invokes, key] at step
    by_cases passive : (v.isMember || v.isBinding) = true
    · rw [if_pos passive] at step
      cases step
      exact Or.inl ⟨by rw [Visit.isSilent, passive]; rfl, rfl⟩
    · rw [if_neg passive] at step
      by_cases member : startsClassMember v.settled v.previous = true
      · rw [if_pos member] at step
        cases step
        exact Or.inl ⟨by simp [Visit.isSilent, Visit.startsMember, member], rfl⟩
      · rw [if_neg member, if_neg (by simp)] at step
        dsimp only at step
        refine Or.inr ⟨?_, ?_⟩
        · rw [Visit.isSilent, Bool.eq_false_iff.2 passive, Visit.startsMember, key,
            Bool.eq_false_iff.2 member]
          rfl
        · cases read : callAt source v.token v.rest with
          | error defect =>
            rw [read] at step
            cases step
          | ok result =>
            rw [read] at step
            cases step
            exact ⟨result.1, rfl, List.mem_cons_self⟩

end Invocation

/-! ## Calls of a run -/

section Run

variable {source : List Char} {names : List String} {s f : State} {previous : Option Token}
  {tokens : List Token}

/-- A run keeps the calls found before. -/
theorem calls_subset_of_run (ran : s.run source names previous tokens = .ok f) :
    s.calls ⊆ f.calls := by
  fun_induction State.run source names s previous tokens with
  | case1 s previous closed =>
    cases ran
    exact List.Subset.refl _
  | case2 => cases ran
  | case3 => cases ran
  | case4 s previous t rest s' taken step ih =>
    refine List.Subset.trans ?_ (ih ran)
    cases step_effect step with
    | quiet same => exact same.1 ▸ List.Subset.refl _
    | opened calls references marks => exact calls ▸ List.Subset.refl _
    | closed calls marks references => exact calls ▸ List.Subset.refl _
    | reported shorthand plain simple follows uncalled calls references marks =>
      exact calls ▸ List.Subset.refl _
    | called plain named opens found calls references marks =>
      exact calls ▸ List.subset_cons_self _ _

/-- Where it is not silent, the pass reports the call of an invocation. -/
theorem callAt_of_mem_visits (ran : s.run source helperNames previous tokens = .ok f) {v : Visit}
    (member : v ∈ s.visits source helperNames previous tokens) (invokes : v.invokes = true)
    (heard : v.isSilent = false) :
    ∃ call taken, callAt source v.token v.rest = .ok (call, taken) ∧ call ∈ f.calls := by
  fun_induction State.visits source helperNames s previous tokens with
  | case1 => cases member
  | case2 s previous t rest defect step =>
    rw [State.run, step] at ran
    cases ran
  | case3 s previous t rest s' taken step ih =>
    rw [State.run, step] at ran
    dsimp only at ran
    rcases List.mem_cons.1 member with rfl | member
    · rcases effect_of_invokes invokes step with ⟨silent, -⟩ | ⟨-, call, found, reported⟩
      · rw [heard] at silent
        cases silent
      · exact ⟨call, taken, found, calls_subset_of_run ran reported⟩
    · exact ih ran member

end Run

end Folio.Script
