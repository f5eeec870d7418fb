import Folio.Proofs.Script.Keeping
import Folio.Proofs.Script.Survivors

/-!
# Two passes side by side

A pass over a script and one over the script with literals in place of some names and calls come to
states that differ only in the references to those names (`State.Twin`). A token that stays takes such
states to such states, provided that the tokens around it are alike (`State.Twin.step_kept`).
-/

namespace Folio.Script

/-! ## Tokens before and after -/

/-- Whether no rule asks for a token when it reads the next one. -/
structure Token.IsInert (t : Token) : Prop where
  kind : t.kind ∉ [Kind.substitution, .operator, .declaration, .keyword]
  mark : t.kind = .punctuation → t.text ∈ [")", "]"]
  text : t.text ∉ ["import", "as", "\x7b", "\x7d", ";"] ++ keyModifiers

/-- Tokens that the next one is read alike after. -/
inductive Alike : Option Token → Option Token → Prop
  | start : Alike none none
  | same {t t' : Token} (kind : t'.kind = t.kind) (text : t'.text = t.text) : Alike (some t) (some t')
  | inert {t t' : Token} (one : t.IsInert) (two : t'.IsInert) : Alike (some t) (some t')

/-- The texts that the pass looks for in the token to come. -/
def aheadTexts : List String :=
  ["=>", "(", ",", "\x7d", ":", "."]

/-- Tokens that the one before is read alike ahead of. -/
inductive AlikeAhead : Option Token → Option Token → Prop
  | done : AlikeAhead none none
  | same {t t' : Token} (text : t'.text = t.text) : AlikeAhead (some t) (some t')
  | other {t t' : Token} (one : t.text ∉ aheadTexts) (two : t'.text ∉ aheadTexts) :
      AlikeAhead (some t) (some t')

/-- Whether a list of declared variables may go on at a token behind a line break. -/
def Token.goesOn (t : Token) : Bool :=
  t.kind == .operator || t.isPunctuation "," || t.isPunctuation "." || t.isPunctuation "("
    || t.isPunctuation "["

theorem endsDeclaration_some (p t : Token) : endsDeclaration (some p) t =
    if p.isPunctuation ";" then true
    else if !t.afterBreak then false
    else if p.kind == .operator || p.isPunctuation "," || p.kind == .declaration then false
    else !t.goesOn :=
  rfl

theorem Token.goesOn_eq_false {t : Token} (kind : t.kind ∉ [Kind.operator, .punctuation]) :
    t.goesOn = false := by
  simp only [List.mem_cons, List.not_mem_nil, or_false, not_or] at kind
  simp [Token.goesOn, Token.isPunctuation, kind]

theorem Token.Restates.goesOn_eq {t t' : Token} (again : t'.Restates t) : t'.goesOn = t.goesOn := by
  simp [Token.goesOn, Token.isPunctuation, again.kind, again.text]

section Inert

variable {p : Token} (inert : p.IsInert)

include inert

theorem Token.IsInert.isPunctuation_eq {text : String} (other : text ∉ [")", "]"]) :
    p.isPunctuation text = false := by
  refine Bool.eq_false_iff.2 fun marked => ?_
  simp only [Token.isPunctuation, Bool.and_eq_true, beq_iff_eq] at marked
  exact other (marked.2 ▸ inert.mark marked.1)

theorem Token.IsInert.kind_ne (kind : Kind)
    (listed : kind ∈ [Kind.substitution, .operator, .declaration, .keyword]) : p.kind ≠ kind :=
  fun same => inert.kind (same ▸ listed)

theorem Token.IsInert.text_ne {text : String}
    (listed : text ∈ ["import", "as", "\x7b", "\x7d", ";"] ++ keyModifiers) : p.text ≠ text :=
  fun same => inert.text (same ▸ listed)

/-- What an opening bracket begins after a token that says nothing of it. -/
theorem openerKind_of_isInert (s : State) (text : String) : openerKind s text (some p) =
    if text = "(" then if s.pendingParams then .params else .paren
    else if text = "\x7b" ∧ s.pendingClass then .classBody
    else if s.scope.kind = .pattern ∨ s.scope.kind = .params then .pattern
    else if text = "[" then .bracket
    else .block := by
  have word : p.kind.isKeyword = false := by
    have kind := inert.kind
    cases same : p.kind <;> simp_all [Kind.isKeyword]
  have mark : p.kind = .punctuation → ¬ (p.text = "(" ∨ p.text = "[" ∨ p.text = "," ∨ p.text = "...") := by
    intro marked
    have listed := inert.mark marked
    simp only [List.mem_cons, List.not_mem_nil, or_false] at listed
    rcases listed with text | text <;> simp [text]
  unfold openerKind
  rw [show kindIs .declaration (some p) = false from beq_false_of_ne (inert.kind_ne _ (by decide)),
    show punctuationIs "," (some p) = false from inert.isPunctuation_eq (by decide)]
  simp only [word, Bool.false_eq_true, false_and, and_false, if_false,
    inert.kind_ne .substitution (by decide), inert.kind_ne .operator (by decide)]
  by_cases marked : p.kind = .punctuation
  · rw [if_pos marked, if_neg (mark marked)]
  · rw [if_neg marked]

end Inert

namespace Alike

variable {previous previous' : Option Token} (alike : Alike previous previous')

include alike

theorem isMember_eq : isMember previous' = isMember previous := by
  cases alike with
  | start => rfl
  | same kind text => exact Folio.Script.isMember_eq kind text
  | inert one two =>
    exact (two.isPunctuation_eq (by decide)).trans (one.isPunctuation_eq (by decide)).symm

theorem kindIs_eq (kind : Kind)
    (listed : kind ∈ [Kind.substitution, .operator, .declaration, .keyword]) :
    kindIs kind previous' = kindIs kind previous := by
  cases alike with
  | start => rfl
  | same same _ => simp [kindIs, same]
  | inert one two => simp [kindIs, one.kind_ne kind listed, two.kind_ne kind listed]

theorem punctuationIs_eq (text : String) (other : text ∉ [")", "]"]) :
    punctuationIs text previous' = punctuationIs text previous := by
  cases alike with
  | start => rfl
  | same kind text => simp [punctuationIs, Token.isPunctuation, kind, text]
  | inert one two =>
    exact (two.isPunctuation_eq other).trans (one.isPunctuation_eq other).symm

theorem textIn_eq {texts : List String}
    (listed : texts ⊆ ["import", "as", "\x7b", "\x7d", ";"] ++ keyModifiers) :
    textIn texts previous' = textIn texts previous := by
  have absent {t : Token} (inert : t.IsInert) : textIn texts (some t) = false := by
    refine Bool.eq_false_iff.2 fun found => inert.text (listed ?_)
    exact List.contains_iff_mem.1 found
  cases alike with
  | start => rfl
  | same kind text => simp [textIn, text]
  | inert one two => rw [absent one, absent two]

theorem startsClassMember_eq {s s' : State} (kind : s'.scope.kind = s.scope.kind) :
    startsClassMember s' previous' = startsClassMember s previous := by
  have none : previous'.isNone = previous.isNone := by
    cases alike <;> rfl
  unfold startsClassMember
  rw [kind, none, alike.textIn_eq (by decide), alike.textIn_eq (by decide)]

theorem endsDeclaration_eq {t t' : Token} (broken : t'.afterBreak = t.afterBreak)
    (goesOn : t'.goesOn = t.goesOn) :
    endsDeclaration previous' t' = endsDeclaration previous t := by
  cases alike with
  | start => rfl
  | @same p p' kind text =>
    have mark (text : String) : p'.isPunctuation text = p.isPunctuation text := by
      simp [Token.isPunctuation, *]
    rw [endsDeclaration_some, endsDeclaration_some, mark, mark, kind, broken, goesOn]
  | inert one two =>
    rw [endsDeclaration_some, endsDeclaration_some,
      one.isPunctuation_eq (by decide), one.isPunctuation_eq (by decide),
      two.isPunctuation_eq (by decide), two.isPunctuation_eq (by decide),
      beq_false_of_ne (one.kind_ne _ (by decide)), beq_false_of_ne (one.kind_ne _ (by decide)),
      beq_false_of_ne (two.kind_ne _ (by decide)), beq_false_of_ne (two.kind_ne _ (by decide)),
      broken, goesOn]

end Alike

namespace AlikeAhead

variable {following following' : Option Token} (ahead : AlikeAhead following following')

include ahead

theorem isSome_eq : following'.isSome = following.isSome := by
  cases ahead <;> rfl

theorem textIn_eq {texts : List String} (listed : texts ⊆ aheadTexts) :
    textIn texts following' = textIn texts following := by
  have absent {t : Token} (other : t.text ∉ aheadTexts) : textIn texts (some t) = false :=
    Bool.eq_false_iff.2 fun found => other (listed (List.contains_iff_mem.1 found))
  cases ahead with
  | done => rfl
  | same text => simp [textIn, text]
  | other one two => rw [absent one, absent two]

theorem textIs_eq {text : String} (listed : text ∈ aheadTexts) :
    textIs text following' = textIs text following := by
  have absent {t : Token} (other : t.text ∉ aheadTexts) : textIs text (some t) = false :=
    beq_false_of_ne fun same => other (same ▸ listed)
  cases ahead with
  | done => rfl
  | same text => simp [textIs, text]
  | other one two => rw [absent one, absent two]

end AlikeAhead

/-! ## States -/

/-- References and those of them that are not gone, found in a pass of its own. -/
inductive Left (Gone : Reference → Prop) : List Reference → List Reference → Prop
  | nil : Left Gone [] []
  | kept {r r' : Reference} {found found' : List Reference} (stays : ¬ Gone r)
      (name : r'.name = r.name) (earlier : Left Gone found found') :
      Left Gone (r :: found) (r' :: found')
  | lost {r : Reference} {found found' : List Reference} (gone : Gone r)
      (earlier : Left Gone found found') : Left Gone (r :: found) found'

theorem Left.exists_mem {Gone : Reference → Prop} {found found' : List Reference}
    (left : Left Gone found found') {r' : Reference} (member : r' ∈ found') :
    ∃ r ∈ found, ¬ Gone r ∧ r'.name = r.name := by
  induction left with
  | nil => cases member
  | @kept r _ _ _ stays name earlier ih =>
    rcases List.mem_cons.1 member with rfl | member
    · exact ⟨r, List.mem_cons_self, stays, name⟩
    · obtain ⟨r, found, rest⟩ := ih member
      exact ⟨r, List.mem_cons_of_mem _ found, rest⟩
  | lost gone earlier ih =>
    obtain ⟨r, found, rest⟩ := ih member
    exact ⟨r, List.mem_cons_of_mem _ found, rest⟩

/-- Scopes at one place of two passes. The conditionals of an object literal count for nothing. -/
structure Scope.Twin (Gone : Reference → Prop) (scope scope' : Scope) : Prop where
  kind : scope'.kind = scope.kind
  expectsKey : scope'.expectsKey = scope.expectsKey
  declaring : scope'.declaring = scope.declaring
  conditionals : scope.kind ≠ .object → scope'.conditionals = scope.conditionals
  before : Left Gone scope.before scope'.before

/-- States at one place of two passes, the second of which finds no calls. -/
structure State.Twin (Gone : Reference → Prop) (s s' : State) : Prop where
  scope : s.scope.Twin Gone s'.scope
  outer : List.Forall₂ (fun around around' => around'.1.text = around.1.text ∧
    around.2.Twin Gone around'.2) s.outer s'.outer
  pendingClass : s'.pendingClass = s.pendingClass
  pendingParams : s'.pendingParams = s.pendingParams
  references : Left Gone s.references s'.references
  calls : s'.calls = []

section Twin

variable {Gone : Reference → Prop}

theorem twin_initial : State.initial.Twin Gone State.initial where
  scope := ⟨rfl, rfl, rfl, fun _ => rfl, .nil⟩
  outer := .nil
  pendingClass := rfl
  pendingParams := rfl
  references := .nil
  calls := rfl

namespace Scope.Twin

variable {scope scope' : Scope} (twin : scope.Twin Gone scope')

include twin

theorem pastKey : scope.pastKey.Twin Gone scope'.pastKey := by
  unfold Scope.pastKey
  by_cases object : scope.kind = .object
  · rw [if_pos object, if_pos (twin.kind.trans object)]
    exact { twin with expectsKey := rfl }
  · rw [if_neg object, if_neg (twin.kind ▸ object)]
    exact twin

theorem countConditional {t t' : Token} (again : t'.Restates t) {rest rest' : List Token}
    (ahead : AlikeAhead rest.head? rest'.head?) (near : touches t' rest' = touches t rest) :
    (scope.countConditional t rest.head?).Twin Gone (scope'.countConditional t' rest'.head?) := by
  have member : rest'.head?.any (fun f => f.text == "." && f.start == t'.stop) =
      rest.head?.any (fun f => f.text == "." && f.start == t.stop) := by
    unfold touches at near
    revert near ahead
    generalize rest.head? = following
    generalize rest'.head? = following'
    intro ahead near
    cases ahead with
    | done => rfl
    | same text =>
      simp only [Option.any_some] at near ⊢
      rw [text, near]
    | other one two =>
      have absent {u : Token} (other : u.text ∉ aheadTexts) : (u.text == ".") = false :=
        beq_false_of_ne fun same => other (by simp [same, aheadTexts])
      simp [absent one, absent two]
  unfold Scope.countConditional
  rw [again.kind, again.text, member]
  split
  · exact twin
  · split
    · exact { twin with conditionals := fun other => by simp [twin.conditionals other] }
    · split
      · exact { twin with conditionals := fun other => by simp [twin.conditionals other] }
      · exact twin

end Scope.Twin

namespace State.Twin

variable {s s' : State} (twin : s.Twin Gone s')

include twin

theorem modifyScope {f f' : Scope → Scope} (scope : (f s.scope).Twin Gone (f' s'.scope)) :
    (s.modifyScope f).Twin Gone (s'.modifyScope f') :=
  { twin with scope := scope }

theorem pastKey : (s.modifyScope Scope.pastKey).Twin Gone (s'.modifyScope Scope.pastKey) :=
  twin.modifyScope twin.scope.pastKey

theorem settle {previous previous' : Option Token} {t t' : Token}
    (alike : Alike previous previous') (broken : t'.afterBreak = t.afterBreak)
    (goesOn : t'.goesOn = t.goesOn) :
    (s.settle previous t).Twin Gone (s'.settle previous' t') := by
  unfold State.settle
  rw [twin.scope.declaring, alike.endsDeclaration_eq broken goesOn]
  split
  · exact twin.modifyScope { twin.scope with declaring := rfl }
  · exact twin

theorem declare (text : String) : (s.declare text).Twin Gone (s'.declare text) := by
  unfold State.declare
  split
  · exact twin.modifyScope { twin.scope with declaring := rfl }
  · split
    · exact { twin with pendingClass := rfl }
    · split
      · exact { twin with pendingParams := rfl }
      · exact twin

theorem enter {opener opener' : Token} (text : opener'.text = opener.text) (kind : ScopeKind) :
    (s.enter opener kind).Twin Gone (s'.enter opener' kind) :=
  { twin with
    scope := ⟨rfl, rfl, rfl, fun _ => rfl, twin.references⟩
    outer := .cons ⟨text, twin.scope⟩ twin.outer }

theorem leave {t : Token} (t' : Token) {closer : String} {u : State} (left : s.leave t closer = .ok u) :
    ∃ u', s'.leave t' closer = .ok u' ∧ u.Twin Gone u' := by
  obtain ⟨opener, scope, outer, around, matching, rfl⟩ := leave_ok.1 left
  have outers := twin.outer
  rw [around] at outers
  obtain ⟨⟨opener', scope'⟩, outer', ⟨text, inner⟩, more, around'⟩ := List.forall₂_cons_left_iff.1 outers
  refine ⟨{ s' with scope := scope', outer := outer' }, leave_ok.2 ⟨opener', scope', outer', around',
    ?_, rfl⟩, { twin with scope := inner, outer := more }⟩
  rw [matching, Scope.closer, Scope.closer, twin.scope.kind, text]

theorem openerKind_eq {previous previous' : Option Token} (alike : Alike previous previous')
    (text : String) : openerKind s' text previous' = openerKind s text previous := by
  have declares := alike.kindIs_eq .declaration (by decide)
  have comma := alike.punctuationIs_eq "," (by decide)
  cases alike with
  | start =>
    simp [openerKind, twin.pendingParams, twin.pendingClass, twin.scope.kind, twin.scope.declaring]
  | same kind spelled =>
    unfold openerKind
    rw [twin.pendingParams, twin.pendingClass, twin.scope.kind, twin.scope.declaring, declares, comma]
    dsimp only
    rw [kind, spelled]
    by_cases place : s.scope.kind = .block ∨ s.scope.kind = .classBody
    · rw [twin.scope.conditionals fun object => by simp [object] at place]
    · simp only [place, and_false, if_false]
  | inert one two =>
    rw [openerKind_of_isInert one, openerKind_of_isInert two, twin.pendingParams, twin.pendingClass,
      twin.scope.kind]

theorem opening {previous previous' : Option Token} (alike : Alike previous previous')
    {t t' : Token} (text : t'.text = t.text) :
    (s.opening previous t).Twin Gone (s'.opening previous' t') := by
  unfold State.opening
  dsimp only
  rw [twin.openerKind_eq alike, text]
  refine State.Twin.enter (State.Twin.pastKey ?_) text _
  split
  · exact { twin with pendingParams := rfl }
  · split
    · exact { twin with pendingClass := rfl }
    · exact twin

theorem closing {t t' : Token} (text : t'.text = t.text) {following following' : Option Token}
    (ahead : AlikeAhead following following') {u : State} (closed : s.closing t following = .ok u) :
    ∃ u', s'.closing t' following' = .ok u' ∧ u.Twin Gone u' := by
  unfold State.closing at closed
  split at closed
  · cases closed
  · next left leaves =>
    obtain ⟨left', leaves', twin'⟩ := twin.leave t' leaves
    unfold State.closing
    rw [text, leaves']
    dsimp only
    rw [twin.scope.kind, ahead.textIs_eq (by decide)]
    split at closed
    · next arrow =>
      cases closed
      rw [if_pos arrow]
      exact ⟨_, rfl, { twin' with references := twin.scope.before }⟩
    · next other =>
      cases closed
      rw [if_neg other]
      exact ⟨_, rfl, twin'⟩

theorem keyRole_eq {t t' : Token} (again : t'.Restates t) {following following' : Option Token}
    (ahead : AlikeAhead following following') :
    keyRole s' t' following' = keyRole s t following := by
  have opens : t'.opens = t.opens := by simp [Token.opens, again.kind, again.text]
  have closes : t'.closes = t.closes := by simp [Token.closes, again.kind, again.text]
  unfold keyRole
  rw [twin.scope.kind, twin.scope.expectsKey, again.kind, again.text, opens, closes,
    ahead.textIn_eq (by decide), ahead.textIn_eq (by decide), ahead.textIs_eq (by decide),
    ahead.isSome_eq]

theorem roleOf_eq (names : List String) {previous previous' : Option Token}
    (alike : Alike previous previous') {t t' : Token} (text : t'.text = t.text)
    {following following' : Option Token} (ahead : AlikeAhead following following') :
    roleOf names s' previous' t' following' = roleOf names s previous t following := by
  have passive : isPassive s' previous' t' following' = isPassive s previous t following := by
    unfold isPassive
    rw [twin.scope.kind, twin.scope.declaring, text, alike.isMember_eq, alike.kindIs_eq _ (by decide),
      alike.textIn_eq (by decide), alike.punctuationIs_eq _ (by decide), ahead.textIs_eq (by decide)]
  unfold roleOf
  rw [passive, alike.startsClassMember_eq twin.scope.kind, twin.scope.kind, twin.scope.expectsKey,
    text, ahead.textIn_eq (by decide), ahead.textIs_eq (by decide)]

section Kept

variable {source : List Char} (source' : List Char) {names : List String}
  {previous previous' : Option Token} (alike : Alike previous previous') {t t' : Token}
  (again : t'.Restates t)
  {rest rest' : List Token} (ahead : AlikeAhead rest.head? rest'.head?)
  (stays : ∀ shorthand, ¬ Gone ⟨t.text, t.start, shorthand⟩) {u : State}

include alike again ahead stays

theorem name (named : s.name source names previous t rest = .ok (u, 0)) :
    ∃ u', s'.name source' names previous' t' rest' = .ok (u', 0) ∧ u.Twin Gone u' := by
  have found (shorthand : Bool) : Left Gone (⟨t.text, t.start, shorthand⟩ :: s.references)
      (⟨t'.text, t'.start, shorthand⟩ :: s'.references) :=
    .kept (stays shorthand) again.text twin.references
  unfold State.name at named ⊢
  rw [twin.roleOf_eq names alike again.text ahead]
  split at named
  · cases named
    exact ⟨_, rfl, twin⟩
  · cases named
    exact ⟨_, rfl, { twin with pendingParams := rfl }⟩
  · cases named
    exact ⟨_, rfl, { twin with references := found true }⟩
  · cases named
    exact ⟨_, rfl, { twin with references := found false }⟩
  · split at named
    · cases named
    · next call taken read =>
      obtain ⟨_, inside, _, _, _, -, taken, -⟩ := callAt_eq_ok read
      cases named
      exact absurd taken (by omega)

variable (near : touches t' rest' = touches t rest)

include near

theorem plain (step : s.plain source names previous t rest = .ok (u, 0)) :
    ∃ u', s'.plain source' names previous' t' rest' = .ok (u', 0) ∧ u.Twin Gone u' := by
  have counted : (s.modifyScope (·.countConditional t rest.head?)).Twin Gone
      (s'.modifyScope (·.countConditional t' rest'.head?)) :=
    twin.modifyScope (twin.scope.countConditional again ahead near)
  unfold State.plain at step ⊢
  dsimp only at step ⊢
  rw [again.kind, again.text, alike.isMember_eq]
  generalize s.modifyScope _ = v at step counted
  generalize s'.modifyScope _ = v' at counted ⊢
  split at step
  · next declares =>
    cases step
    rw [if_pos declares]
    exact ⟨_, rfl, (counted.declare _).pastKey⟩
  · next silent =>
    rw [if_neg silent]
    split at step
    · next plain =>
      rw [if_pos plain]
      split at step
      · cases step
      · next w taken named =>
        cases step
        obtain ⟨w', named', twin'⟩ := counted.name source' alike again ahead stays named
        rw [named']
        exact ⟨_, rfl, twin'.pastKey⟩
    · next other =>
      cases step
      rw [if_neg other]
      exact ⟨_, rfl, counted.pastKey⟩

/-- A token that stays and takes no other tokens with it. -/
theorem step_kept (step : s.step source names previous t rest = .ok (u, 0)) :
    ∃ u', s'.step source' names previous' t' rest' = .ok (u', 0) ∧ u.Twin Gone u' := by
  have settled := twin.settle alike again.afterBreak again.goesOn_eq
  have opens : t'.opens = t.opens := by simp [Token.opens, again.kind, again.text]
  have closes : t'.closes = t.closes := by simp [Token.closes, again.kind, again.text]
  have comma : t'.isPunctuation "," = t.isPunctuation "," := by
    simp [Token.isPunctuation, again.kind, again.text]
  unfold State.step at step ⊢
  dsimp only at step ⊢
  rw [settled.keyRole_eq again ahead, again.kind, again.text, opens, closes, comma,
    settled.scope.kind]
  generalize s.settle previous t = v at step settled
  generalize s'.settle previous' t' = v' at settled ⊢
  split at step
  · next mark =>
    rw [if_pos mark]
    split at step
    · next ends =>
      obtain ⟨left, leaves, same⟩ := map_ok step
      cases same
      obtain ⟨left', leaves', twin'⟩ := settled.leave t' leaves
      rw [if_pos ends, leaves']
      exact ⟨_, rfl, twin'⟩
    · next begins =>
      cases step
      rw [if_neg begins]
      exact ⟨_, rfl, settled.enter again.text _⟩
  · next code =>
    rw [if_neg code]
    split at step
    · cases step
      exact ⟨_, rfl, { settled with
        scope := { settled.scope with expectsKey := rfl }, pendingParams := rfl }⟩
    · cases step
      exact ⟨_, rfl, settled⟩
    · split at step
      · next opening =>
        cases step
        rw [if_pos opening]
        exact ⟨_, rfl, settled.opening alike again.text⟩
      · next notOpening =>
        rw [if_neg notOpening]
        split at step
        · next closing =>
          obtain ⟨closed, leaves, same⟩ := map_ok step
          cases same
          obtain ⟨closed', leaves', twin'⟩ := settled.closing again.text ahead leaves
          rw [if_pos closing, leaves']
          exact ⟨_, rfl, twin'⟩
        · next notClosing =>
          rw [if_neg notClosing]
          split at step
          · next between =>
            cases step
            rw [if_pos between]
            exact ⟨_, rfl, settled.modifyScope { settled.scope with expectsKey := rfl }⟩
          · next other =>
            rw [if_neg other]
            exact settled.plain source' alike again ahead stays near step

end Kept

end State.Twin

end Twin

end Folio.Script
