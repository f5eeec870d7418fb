import Folio.Proofs.Script.Grammar
import Folio.Proofs.Script.Keeping

/-!
# The pass over bindings

`Code.passes` is the induction over syntax trees: over clear code the pass comes back to its scope
and reports nothing at a token that binds.
-/

namespace Folio.Script

/-- What the pass takes an opening bracket for. -/
def Visit.opens (v : Visit) : ScopeKind :=
  openerKind v.settled v.token.text v.previous

/-- A pass with the state at its end and the braces that it takes for those of object literals. -/
structure Pass where
  source : List Char
  names : List String
  taken : Token → Bool
  final : State

/-- Whether a pass goes on from a state to its end. -/
structure Pass.Goes (pass : Pass) (s : State) (previous : Option Token) (toCome : List Token) :
    Prop where
  ran : s.run pass.source pass.names previous toCome = .ok pass.final
  reads : ∀ v ∈ s.visits pass.source pass.names previous toCome,
    pass.taken v.token = true → v.opens = .object

/-- Whether a token that does not bind begins at an offset. -/
def Marks.Free (marks : Marks) (start : Nat) : Prop :=
  ∃ t : Token, t.free ∈ marks ∧ t.start = start

/-- What happens to a state over some tokens: it comes back to its scope, and all that it has found
begins at tokens that do not bind. The references are told about where `shown` holds, and declarator
lists go on where `on` holds. -/
structure Passes (shown on : Prop) (marks : Marks) (s s' : State) : Prop where
  outer : s'.outer = s.outer
  kind : s'.scope.kind = s.scope.kind
  before : s'.scope.before = s.scope.before
  pendingClass : s'.pendingClass = s.pendingClass
  declaring : on → s.scope.declaring = true → s'.scope.declaring = true
  references : shown → ∀ r ∈ s'.references, r ∈ s.references ∨ marks.Free r.start
  calls : ∀ c ∈ s'.calls, c ∈ s.calls ∨ marks.Free c.start

/-- A pass goes over some tokens. -/
def Pass.Over (pass : Pass) (shown on : Prop) (marks : Marks) (s : State) (previous : Option Token)
    (rest : List Token) : Prop :=
  ∃ s', pass.Goes s' (lastOf previous marks.tokens) rest ∧ Passes shown on marks s s'

theorem lastOf_append (previous : Option Token) (tokens tokens' : List Token) :
    lastOf previous (tokens ++ tokens') = lastOf (lastOf previous tokens) tokens' := by
  induction tokens generalizing previous with
  | nil => rfl
  | cons t tokens ih => exact ih (some t)

theorem Brackets.lastOf_around {texts : List String} (b : Brackets texts) (marks : Marks)
    (previous : Option Token) : lastOf previous (b.around marks).tokens = some b.closer := by
  simp [around, lastOf, lastOf_append]

section Passing

variable {shown on shown' on' : Prop} {marks marks' : Marks} {s s' s'' : State}

theorem Marks.Free.mono {start : Nat} (free : marks.Free start) (subset : marks ⊆ marks') :
    marks'.Free start :=
  free.imp fun _ found => ⟨subset found.1, found.2⟩

namespace Passes

theorem refl (shown on : Prop) (s : State) : Passes shown on [] s s :=
  ⟨rfl, rfl, rfl, rfl, fun _ => id, fun _ _ => Or.inl, fun _ => Or.inl⟩

theorem mono (passes : Passes shown on marks s s') (show' : shown' → shown) (goes : on' → on)
    (subset : marks ⊆ marks') : Passes shown' on' marks' s s' where
  outer := passes.outer
  kind := passes.kind
  before := passes.before
  pendingClass := passes.pendingClass
  declaring := fun h => passes.declaring (goes h)
  references := fun h r member => (passes.references (show' h) r member).imp_right (·.mono subset)
  calls := fun c member => (passes.calls c member).imp_right (·.mono subset)

theorem trans (first : Passes shown on marks s s') (second : Passes shown on' marks' s' s'') :
    Passes shown (on ∧ on') (marks ++ marks') s s'' where
  outer := second.outer.trans first.outer
  kind := second.kind.trans first.kind
  before := second.before.trans first.before
  pendingClass := second.pendingClass.trans first.pendingClass
  declaring := fun both on => second.declaring both.2 (first.declaring both.1 on)
  references := by
    intro h r member
    rcases second.references h r member with member | free
    · exact (first.references h r member).imp_right (·.mono (List.subset_append_left _ _))
    · exact Or.inr (free.mono (List.subset_append_right _ _))
  calls := by
    intro c member
    rcases second.calls c member with member | free
    · exact (first.calls c member).imp_right (·.mono (List.subset_append_left _ _))
    · exact Or.inr (free.mono (List.subset_append_right _ _))

/-- A token that keeps its scope and finds what a further condition allows. -/
theorem of_keeps {previous : Option Token} {t : Token} (keeps : Keeps (s.settle previous t) s')
    (references : shown → ∀ r ∈ s'.references, r ∈ s.references ∨ marks.Free r.start)
    (calls : ∀ c ∈ s'.calls, c ∈ s.calls ∨ marks.Free c.start) :
    Passes shown (endsDeclaration previous t = false) marks s s' := by
  obtain ⟨outer, kind⟩ := Level.settle s previous t
  have declaring (on : endsDeclaration previous t = false) : s.settle previous t = s := by
    simp [State.settle, on]
  exact ⟨keeps.outer.trans outer, keeps.kind.trans kind,
    keeps.before.trans (Effect.scope_before_eq (Quiet.settle s previous t)),
    keeps.pendingClass.trans (settle_pendingClass s previous t),
    fun on already => keeps.declaring (by rwa [declaring on]), references, calls⟩

end Passes

end Passing

/-! ## Brackets -/

section Openers

variable (s : State) (previous : Option Token) (t : Token)

theorem opening_scope : (s.opening previous t).scope =
    Scope.opened (openerKind s t.text previous) s.references := by
  unfold State.opening
  dsimp only
  split
  · rfl
  · split <;> rfl

theorem opening_outer : (s.opening previous t).outer = (t, s.scope.pastKey) :: s.outer := by
  unfold State.opening
  dsimp only
  split
  · rfl
  · split <;> rfl

theorem opening_found : (s.opening previous t).references = s.references ∧
    (s.opening previous t).calls = s.calls := by
  unfold State.opening
  dsimp only
  split
  · exact ⟨rfl, rfl⟩
  · split <;> exact ⟨rfl, rfl⟩

theorem opening_pendingClass (noClass : openerKind s t.text previous ≠ .classBody) :
    (s.opening previous t).pendingClass = s.pendingClass := by
  unfold State.opening
  dsimp only
  rw [if_neg noClass]
  split <;> rfl

end Openers

/-- What a closing bracket does, and the end of an arrow function's parameters. -/
theorem closing_found {s s' : State} {t : Token} {following : Option Token}
    (closed : s.closing t following = .ok s') :
    (∃ opener, s.outer = (opener, s'.scope) :: s'.outer) ∧ s'.pendingClass = s.pendingClass ∧
      s'.calls = s.calls ∧ (s'.references = s.references ∨ s'.references = s.scope.before) ∧
      (s.scope.kind = .paren → textIs "=>" following = true →
        s'.references = s.scope.before) := by
  unfold State.closing at closed
  split at closed
  · cases closed
  · next left leaves =>
    obtain ⟨opener, scope, outer, around, -, rfl⟩ := leave_ok.1 leaves
    split at closed
    · cases closed
      exact ⟨⟨opener, around⟩, rfl, rfl, Or.inr rfl, fun _ _ => rfl⟩
    · next noArrow =>
      cases closed
      exact ⟨⟨opener, around⟩, rfl, rfl, Or.inl rfl, fun paren arrow => absurd ⟨paren, arrow⟩ noArrow⟩

/-! ## One token -/

namespace Pass

variable {pass : Pass} {shown on : Prop} {marks : Marks} {s s' : State} {previous : Option Token}
  {t : Token} {rest : List Token}

theorem Goes.step (goes : pass.Goes s previous (t :: rest)) :
    ∃ s' taken, s.step pass.source pass.names previous t rest = .ok (s', taken) ∧
      pass.Goes s' (t :: rest)[taken]? (rest.drop taken) := by
  obtain ⟨s', taken, step, ran⟩ := run_cons_eq_ok goes.ran
  refine ⟨s', taken, step, ran, fun v member => goes.reads v ?_⟩
  rw [visits_cons step]
  exact List.mem_cons_of_mem _ member

/-- A step whose outcome is known. -/
theorem Goes.stepped (goes : pass.Goes s previous (t :: rest))
    (step : s.step pass.source pass.names previous t rest = .ok (s', 0)) :
    pass.Goes s' (some t) rest := by
  obtain ⟨u, taken, step', goes'⟩ := goes.step
  rw [step] at step'
  cases step'
  exact goes'

theorem Goes.takes (goes : pass.Goes s previous (t :: rest)) (taken : pass.taken t = true) :
    openerKind (s.settle previous t) t.text previous = .object := by
  obtain ⟨u, n, step, -⟩ := goes.step
  refine goes.reads ⟨⟨previous, t, rest⟩, s⟩ ?_ taken
  rw [visits_cons step]
  exact List.mem_cons_self

theorem Over.nil (goes : pass.Goes s previous rest) : pass.Over shown on [] s previous rest :=
  ⟨s, goes, .refl shown on s⟩

theorem Over.mono {shown' on' : Prop} (passed : pass.Over shown on marks s previous rest)
    (show' : shown' → shown) (goes : on' → on) : pass.Over shown' on' marks s previous rest :=
  passed.imp fun _ both => ⟨both.1, both.2.mono show' goes (List.Subset.refl _)⟩

theorem Over.append {marks' : Marks} {on' : Prop}
    (passed : pass.Over shown on marks s previous (marks'.tokens ++ rest))
    (later : ∀ u, pass.Goes u (lastOf previous marks.tokens) (marks'.tokens ++ rest) →
      Passes shown on marks s u → pass.Over shown on' marks' u (lastOf previous marks.tokens) rest) :
    pass.Over shown (on ∧ on') (marks ++ marks') s previous rest := by
  obtain ⟨u, goes, passes⟩ := passed
  obtain ⟨s', goes', passes'⟩ := later u goes passes
  exact ⟨s', by rwa [Marks.tokens_append, lastOf_append], passes.trans passes'⟩

/-- A token that may be reported, where it takes no call with it. -/
theorem Goes.free (goes : pass.Goes s previous (t :: rest))
    (bracket : t.opens = false ∧ t.closes = false) (code : t.kind ≠ .substitution)
    (word : t.kind = .declaration → isMember previous = true ∨ t.text ≠ "class")
    (uncalled : t.kind = .plainName → textIs "(" rest.head? = false) :
    pass.Over shown (endsDeclaration previous t = false) [t.free] s previous rest := by
  obtain ⟨s', taken, step, goes'⟩ := goes.step
  have keeps := step_keeps bracket code word step
  rcases keeps.found step with ⟨rfl, calls, references⟩ | ⟨call, plain, opens, -⟩
  · refine ⟨s', goes', .of_keeps keeps (fun _ r member => ?_) fun c member => Or.inl (calls ▸ member)⟩
    exact (references r member).imp_right fun same => ⟨t, List.mem_singleton_self _, same.2.symm⟩
  · rw [uncalled plain] at opens
    cases opens

/-- A name that is bound and that the pass takes for one that is. -/
theorem Goes.bound (goes : pass.Goes s previous (t :: rest))
    (kind : t.kind ∈ [Kind.plainName, .otherName, .keyword])
    (bracket : t.opens = false ∧ t.closes = false)
    (passive : t.kind = .plainName →
      isPassive (s.settle previous t) previous t rest.head? = true) :
    pass.Over shown (endsDeclaration previous t = false) [t.bound] s previous rest := by
  obtain ⟨s', taken, step, goes'⟩ := goes.step
  have other (k : Kind) (no : k ∉ [Kind.plainName, .otherName, .keyword]) : t.kind ≠ k :=
    fun same => no (same ▸ kind)
  have keeps := step_keeps bracket (other _ (by decide))
    (fun declares => absurd declares (other _ (by decide))) step
  obtain ⟨rfl, calls, references⟩ := step_bound kind bracket passive step
  exact ⟨s', goes', .of_keeps keeps (fun _ r member => Or.inl (references ▸ member))
    fun c member => Or.inl (calls ▸ member)⟩

/-! ## Groups -/

variable {texts : List String} {b : Brackets texts}

theorem Goes.open (goes : pass.Goes s previous (b.opener :: rest)) :
    pass.Goes ((s.settle previous b.opener).opening previous b.opener) (some b.opener) rest := by
  obtain ⟨opens, -, -⟩ := opens_of_matching b.punctuation.1 b.matching
  exact goes.stepped (step_opener b.punctuation.1 opens s rest)

theorem Goes.close (goes : pass.Goes s previous (b.closer :: rest)) :
    ∃ s', pass.Goes s' (some b.closer) rest ∧
      (∃ opener, s.outer = (opener, s'.scope) :: s'.outer) ∧ s'.pendingClass = s.pendingClass ∧
      s'.calls = s.calls ∧ (s'.references = s.references ∨ s'.references = s.scope.before) ∧
      (s.scope.kind = .paren → textIs "=>" rest.head? = true →
        s'.references = s.scope.before) := by
  obtain ⟨opens, closes, -⟩ := closes_of_matching b.punctuation.2 b.matching
  obtain ⟨s', taken, step, goes'⟩ := goes.step
  rw [step_closer b.punctuation.2 opens closes] at step
  obtain ⟨left, closed, same⟩ := map_ok step
  cases same
  obtain ⟨around, pendingClass, calls, references, arrow⟩ := closing_found closed
  obtain ⟨outer, kind⟩ := Level.settle s previous b.closer
  have quiet := Quiet.settle s previous b.closer
  rw [outer] at around
  rw [Effect.scope_before_eq quiet] at references arrow
  rw [quiet.2.1] at references
  rw [kind] at arrow
  exact ⟨s', goes', around, pendingClass.trans (settle_pendingClass _ _ _),
    calls.trans quiet.1, references, arrow⟩

/-- Brackets lead into a scope of their own and back. The parameters of an arrow function are
dropped there. -/
theorem Goes.enclosed {inner : Prop}
    (goes : pass.Goes s previous (b.opener :: marks.tokens ++ b.closer :: rest))
    (noClass : b.opener.text = "\x7b" → s.pendingClass = false)
    (within : ∀ u, u.scope = Scope.opened
        (openerKind (s.settle previous b.opener) b.opener.text previous) s.references →
      u.pendingClass = s.pendingClass →
      pass.Goes u (some b.opener) (marks.tokens ++ b.closer :: rest) →
      pass.Over inner False marks u (some b.opener) (b.closer :: rest))
    (shows : shown → inner ∨
      openerKind (s.settle previous b.opener) b.opener.text previous = .paren ∧
        textIs "=>" rest.head? = true) :
    pass.Over shown (endsDeclaration previous b.opener = false) (b.around marks) s previous
      rest := by
  have quiet := Quiet.settle s previous b.opener
  have pending := settle_pendingClass s previous b.opener
  have scope := opening_scope (s.settle previous b.opener) previous b.opener
  have found := opening_found (s.settle previous b.opener) previous b.opener
  have outer := opening_outer (s.settle previous b.opener) previous b.opener
  have pendingClass := (opening_pendingClass (s.settle previous b.opener) previous b.opener
    (openerKind_ne_classBody (fun brace => pending.trans (noClass brace)) previous)).trans pending
  rw [quiet.2.1] at scope
  have opened := goes.open
  generalize (s.settle previous b.opener).opening previous b.opener = u at *
  obtain ⟨u', goes', passes⟩ := within u scope pendingClass opened
  obtain ⟨s', goes'', ⟨opener, around⟩, pendingClass', calls, references, arrow⟩ := goes'.close
  rw [passes.outer, outer] at around
  obtain ⟨first, sameOuter⟩ := List.cons.inj around
  obtain ⟨-, sameScope⟩ := Prod.mk.inj first
  have settled := Level.settle s previous b.opener
  have keeps := Keeps.pastKey (s.settle previous b.opener)
  have inside : marks ⊆ b.around marks := fun m member => by simp [Brackets.around, member]
  refine ⟨s', by rwa [b.lastOf_around], ?_⟩
  refine ⟨sameOuter.symm.trans settled.1, ?_, ?_, pendingClass'.trans
    (passes.pendingClass.trans pendingClass), fun on already => ?_, fun h r member => ?_,
    fun c member => ?_⟩
  · rw [← sameScope]
    exact keeps.kind.trans settled.2
  · rw [← sameScope]
    exact keeps.before.trans (Effect.scope_before_eq quiet)
  · have same : s.settle previous b.opener = s := by simp [State.settle, on]
    rw [← sameScope]
    exact keeps.declaring (by rwa [same])
  · have before : u'.scope.before = s.references := by
      rw [passes.before, scope]
      rfl
    have dropped (fewer : s'.references = u'.scope.before) : r ∈ s.references := by
      rwa [fewer, before] at member
    rcases shows h with inner | ⟨paren, follows⟩
    · rcases references with same | fewer
      · rw [same] at member
        rcases passes.references inner r member with member | free
        · rw [found.1, quiet.2.1] at member
          exact Or.inl member
        · exact Or.inr (free.mono inside)
      · exact Or.inl (dropped fewer)
    · refine Or.inl (dropped (arrow ?_ follows))
      rw [passes.kind, scope]
      exact paren
  · rw [calls] at member
    rcases passes.calls c member with member | free
    · rw [found.2, quiet.1] at member
      exact Or.inl member
    · exact Or.inr (free.mono inside)

end Pass

end Folio.Script
