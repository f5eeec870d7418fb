import Folio.Proofs.Script.Expression

/-!
# How the pass reads expressions

The steps of the pass at a place are those of quiet tokens, names and brackets. From them
`Expression.reads` follows over the syntax tree: the pass goes over an expression and finds the
references that its occurrences report, in the scope in which it began.
-/

namespace Folio.Script

/-! ## States at a place -/

/-- A state with more nodes. -/
def State.found (s : State) (references : List Reference) (calls : List Call) : State :=
  { s with
    references := references.reverse ++ s.references, calls := calls ++ s.calls,
    pendingParams := false }

theorem State.found_nil {s : State} (params : s.pendingParams = false) : s.found [] [] = s := by
  obtain ⟨scope, outer, pendingClass, pendingParams, references, calls⟩ := s
  cases params
  rfl

theorem State.found_found (s : State) (references references' : List Reference)
    (calls calls' : List Call) :
    (s.found references calls).found references' calls' =
      s.found (references ++ references') (calls' ++ calls) := by
  simp [State.found]

theorem Scope.pastKey_eq_self {scope : Scope} (noKey : scope.expectsKey = false) :
    scope.pastKey = scope := by
  unfold Scope.pastKey
  split
  · obtain ⟨kind, expectsKey, conditionals, declaring, before⟩ := scope
    cases noKey
    rfl
  · rfl

def Place.Holds (place : Place) (scope : Scope) : Prop :=
  match place with
  | .hidden => scope.kind = .pattern ∨ scope.kind = .params
  | .inner => scope.kind = .paren ∨ scope.kind = .bracket ∨ scope.kind = .object
  | .bare pending => scope.kind = .block ∧ scope.conditionals = pending

/-- Whether the pass is at a place with no key, binding or class body due. -/
structure At (place : Place) (s : State) : Prop where
  holds : place.Holds s.scope
  noKey : s.scope.expectsKey = false
  settled : s.scope.declaring = false
  noClass : s.pendingClass = false

theorem At.found {place : Place} {s : State} (at_ : At place s) (references : List Reference)
    (calls : List Call) : At place (s.found references calls) :=
  ⟨at_.holds, at_.noKey, at_.settled, at_.noClass⟩

theorem settle_eq_self {s : State} (settled : s.scope.declaring = false) (previous : Option Token)
    (t : Token) : s.settle previous t = s := by
  simp [State.settle, settled]

theorem keyRole_of_noKey {s : State} (noKey : s.scope.expectsKey = false) (t : Token)
    (following : Option Token) : keyRole s t following = .value := by
  simp [keyRole, noKey]

/-! ## Quiet tokens -/

section Steps

variable {source : List Char} {names : List String} {place : Place} {s : State}
  {previous : Option Token} {t : Token} {rest : List Token}

/-- A token where no key is due that is no bracket, no name and no declaring word. -/
theorem step_plain (settled : s.scope.declaring = false)
    (value : keyRole s t rest.head? = .value) (bracket : t.opens = false ∧ t.closes = false)
    (comma : t.isPunctuation "," = false ∨ s.scope.kind ≠ .object)
    (kind : t.kind ∉ [Kind.substitution, .declaration, .plainName]) :
    s.step source names previous t rest =
      .ok (s.modifyScope fun scope => (scope.countConditional t rest.head?).pastKey, 0) := by
  simp only [List.mem_cons, List.not_mem_nil, or_false, not_or] at kind
  have other : ¬(t.isPunctuation "," = true ∧ s.scope.kind = .object) := by
    rintro ⟨isComma, object⟩
    rcases comma with no | no
    · rw [no] at isComma
      cases isComma
    · exact no object
  unfold State.step
  rw [settle_eq_self settled]
  dsimp only
  rw [if_neg kind.1, value]
  dsimp only
  rw [if_neg (by simp [bracket]), if_neg (by simp [bracket]), if_neg other]
  unfold State.plain
  dsimp only
  rw [if_neg (fun declaration => kind.2.1 declaration.1), if_neg kind.2.2]
  rfl

/-- A quiet token changes nothing. -/
theorem step_quiet (noKey : s.scope.expectsKey = false) (settled : s.scope.declaring = false)
    (bracket : t.opens = false ∧ t.closes = false)
    (comma : t.isPunctuation "," = false ∨ s.scope.kind ≠ .object)
    (kind : t.kind ∉ [Kind.substitution, .declaration, .plainName])
    (quiet : t.kind = .operator → t.text ≠ "?" ∧ t.text ≠ ":") :
    s.step source names previous t rest = .ok (s, 0) := by
  rw [step_plain settled (keyRole_of_noKey noKey t _) bracket comma kind,
    State.modifyScope_eq_self (by rw [countConditional_eq_self quiet, Scope.pastKey_eq_self noKey])]

theorem step_question (question : Sign "?") (noKey : s.scope.expectsKey = false)
    (settled : s.scope.declaring = false) (following : textIs "." rest.head? = false) :
    s.step source names previous question.token rest =
      .ok (s.modifyScope fun scope => { scope with conditionals := scope.conditionals + 1 }, 0) := by
  have counted : s.scope.countConditional question.token rest.head? =
      { s.scope with conditionals := s.scope.conditionals + 1 } := by
    have chain : rest.head?.any
        (fun f => f.text == "." && f.start == question.token.stop) = false := by
      cases rest with
      | nil => rfl
      | cons f rest =>
        have text : (f.text == ".") = false := following
        simp [text]
    simp [Scope.countConditional, question.operator, question.same, chain]
  rw [step_plain settled (keyRole_of_noKey noKey _ _) (question.not_bracket rfl rfl)
    (Or.inl (by simp [Token.isPunctuation, question.operator])) (by simp [question.operator]),
    State.modifyScope, counted]
  refine congrArg (fun scope => Except.ok ({ s with scope }, 0)) (Scope.pastKey_eq_self ?_)
  exact noKey

theorem step_colon (colon : Sign ":") (noKey : s.scope.expectsKey = false)
    (settled : s.scope.declaring = false) :
    s.step source names previous colon.token rest =
      .ok (s.modifyScope fun scope => { scope with conditionals := scope.conditionals - 1 }, 0) := by
  have counted : s.scope.countConditional colon.token rest.head? =
      { s.scope with conditionals := s.scope.conditionals - 1 } := by
    simp [Scope.countConditional, colon.operator, colon.same]
  rw [step_plain settled (keyRole_of_noKey noKey _ _) (colon.not_bracket rfl rfl)
    (Or.inl (by simp [Token.isPunctuation, colon.operator])) (by simp [colon.operator]),
    State.modifyScope, counted]
  refine congrArg (fun scope => Except.ok ({ s with scope }, 0)) (Scope.pastKey_eq_self ?_)
  exact noKey

/-! ## Names -/

/-- A token after which a name is neither a member nor a binding. -/
def Inert (previous : Option Token) : Prop :=
  isMember previous = false ∧ kindIs .declaration previous = false ∧
    textIn ["import", "as"] previous = false

theorem roleOf_at (at_ : At place s) (inert : Inert previous) (following : Option Token)
    (noArrow : textIs "=>" following = false) :
    roleOf names s previous t following =
      if isSimpleName t.text = false ∨ place = .hidden then .passive
      else if names.contains t.text ∧ textIs "(" following then .call else .reference := by
  obtain ⟨member, declaration, word⟩ := inert
  obtain ⟨holds, noKey, settled, -⟩ := at_
  cases place with
  | hidden => rcases holds with kind | kind <;> simp [roleOf, isPassive, kind]
  | inner =>
    have passive : isPassive s previous t following = !isSimpleName t.text := by
      rcases holds with kind | kind | kind <;>
        simp only [isPassive, member, declaration, word, settled, noArrow, kind] <;>
        cases isSimpleName t.text <;> rfl
    have noClass : startsClassMember s previous = false := by
      rcases holds with kind | kind | kind <;> simp [startsClassMember, kind]
    simp [roleOf, passive, noClass, noKey]
  | bare pending =>
    obtain ⟨kind, -⟩ := holds
    have passive : isPassive s previous t following = !isSimpleName t.text := by
      simp only [isPassive, member, declaration, word, settled, noArrow, kind]
      cases isSimpleName t.text <;> rfl
    simp [roleOf, passive, startsClassMember, kind]

theorem reportedAt_of_passive (passive : isSimpleName t.text = false ∨ place = .hidden) :
    Occurrence.reportedAt place t = none := by
  unfold Occurrence.reportedAt
  refine if_neg ?_
  rintro ⟨-, simple, shown⟩
  rcases passive with no | hidden
  · rw [no] at simple
    cases simple
  · exact shown hidden

theorem reportedAt_of_shown (plain : t.kind = .plainName)
    (shown : ¬(isSimpleName t.text = false ∨ place = .hidden)) :
    Occurrence.reportedAt place t = some ⟨t.text, t.start, false⟩ := by
  unfold Occurrence.reportedAt
  refine if_pos ⟨plain, ?_, fun hidden => shown (Or.inr hidden)⟩
  simpa using fun no => shown (Or.inl no)

/-- A name at a place is reported there, or it is a call. -/
theorem step_name (at_ : At place s) (params : s.pendingParams = false)
    (inert : Inert previous) (plain : t.kind = .plainName) (noArrow : textIs "=>" rest.head? = false)
    (uncalled : ¬(names.contains t.text = true ∧ textIs "(" rest.head? = true)) :
    s.step source names previous t rest =
      .ok (s.found (Occurrence.reportedAt place t).toList [], 0) := by
  rw [step_plainName (settle_eq_self at_.settled _ _) (keyRole_of_noKey at_.noKey t _) plain, State.name,
    roleOf_at at_ inert _ noArrow]
  by_cases passive : isSimpleName t.text = false ∨ place = .hidden
  · rw [if_pos passive, reportedAt_of_passive passive]
    dsimp only [Option.toList]
    rw [State.found_nil params, State.modifyScope_eq_self (Scope.pastKey_eq_self at_.noKey)]
  · rw [if_neg passive, if_neg uncalled, reportedAt_of_shown plain passive]
    dsimp only [Option.toList]
    have more : ({ s with references := ⟨t.text, t.start, false⟩ :: s.references } : State) =
        s.found [⟨t.text, t.start, false⟩] [] := by
      obtain ⟨scope, outer, pendingClass, pendingParams, references, calls⟩ := s
      cases params
      rfl
    rw [more, State.modifyScope_eq_self (Scope.pastKey_eq_self (at_.found _ []).noKey)]

/-- A name before an argument list may take it as a call. -/
theorem step_callee (at_ : At place s) (params : s.pendingParams = false)
    (inert : Inert previous) (plain : t.kind = .plainName) (noArrow : textIs "=>" rest.head? = false)
    (called : names.contains t.text = true ∧ textIs "(" rest.head? = true) {call : Call}
    {taken : Nat} (found : callAt source t rest = .ok (call, taken)) :
    s.step source names previous t rest = .ok (s, 0) ∧ Occurrence.reportedAt place t = none ∨
      s.step source names previous t rest = .ok (s.found [] [call], taken) := by
  rw [step_plainName (settle_eq_self at_.settled _ _) (keyRole_of_noKey at_.noKey t _) plain, State.name,
    roleOf_at at_ inert _ noArrow]
  by_cases passive : isSimpleName t.text = false ∨ place = .hidden
  · refine Or.inl ⟨?_, reportedAt_of_passive passive⟩
    rw [if_pos passive]
    dsimp only
    rw [State.modifyScope_eq_self (Scope.pastKey_eq_self at_.noKey)]
  · have more : ({ s with calls := call :: s.calls } : State) = s.found [] [call] := by
      obtain ⟨scope, outer, pendingClass, pendingParams, references, calls⟩ := s
      cases params
      rfl
    refine Or.inr ?_
    rw [if_neg passive, if_pos called, found]
    dsimp only
    rw [more, State.modifyScope_eq_self (Scope.pastKey_eq_self (at_.found [] [call]).noKey)]

end Steps

/-! ## Brackets -/

/-- What stands before an expression. -/
def Start.Leads : Start → Token → Prop
  | .fresh, p => p.kind = .operator ∧ p.text ≠ ":" ∧ p.text ∉ ["import", "as"] ∨
    p.kind = .punctuation ∧ p.text ∈ ["(", "[", ",", "..."]
  | .colon, p => p.kind = .operator ∧ p.text = ":"
  | .method, p => p.kind = .punctuation ∧ p.text = "..."

theorem Start.Leads.inert {start : Start} {p : Token} (leads : start.Leads p) :
    Inert (some p) := by
  cases start with
  | fresh =>
    rcases leads with ⟨kind, -, word⟩ | ⟨kind, text⟩
    · simp_all [Inert, isMember, punctuationIs, Token.isPunctuation, kindIs, textIn]
    · rcases List.mem_cons.1 text with text | text
      · simp [Inert, isMember, punctuationIs, Token.isPunctuation, kindIs, textIn, kind, text]
      · simp only [List.mem_cons, List.not_mem_nil, or_false] at text
        rcases text with text | text | text <;>
          simp [Inert, isMember, punctuationIs, Token.isPunctuation, kindIs, textIn, kind, text]
  | colon =>
    obtain ⟨kind, text⟩ := leads
    simp [Inert, isMember, punctuationIs, Token.isPunctuation, kindIs, textIn, kind, text]
  | method =>
    obtain ⟨kind, text⟩ := leads
    simp [Inert, isMember, punctuationIs, Token.isPunctuation, kindIs, textIn, kind, text]

/-- Whether the pass is at a place before an expression. -/
structure Ready (place : Place) (start : Start) (previous : Token) (s : State) : Prop
    extends At place s where
  params : s.pendingParams = true ↔ start = .method
  leads : start.Leads previous

/-- The scope kind of braces. -/
def Braces.kind : Braces → ScopeKind
  | object => .object
  | block => .block
  | pattern => .pattern

/-- The scope kind of square brackets. -/
def Place.bracketKind : Place → ScopeKind
  | hidden => .pattern
  | _ => .bracket

/-- The scope kind of parentheses. -/
def Start.groupKind : Start → ScopeKind
  | method => .params
  | _ => .paren

section Openers

variable {place : Place} {start : Start} {s : State} {p : Token}

theorem openerKind_group (ready : Ready place start p s) :
    openerKind s "(" (some p) = start.groupKind := by
  have params := ready.params
  cases start <;> simp_all [openerKind, Start.groupKind]

theorem openerKind_call (params : s.pendingParams = false) (previous : Option Token) :
    openerKind s "(" previous = .paren := by
  simp [openerKind, params]

theorem openerKind_square (ready : Ready place start p s) :
    openerKind s "[" (some p) = place.bracketKind := by
  obtain ⟨-, declaration, -⟩ := ready.leads.inert
  have settled := ready.settled
  cases place with
  | hidden =>
    rcases ready.holds with kind | kind <;>
      simp [openerKind, ready.noClass, kind, Place.bracketKind]
  | inner =>
    rcases ready.holds with kind | kind | kind <;>
      simp [openerKind, ready.noClass, kind, declaration, settled, Place.bracketKind]
  | bare pending =>
    simp [openerKind, ready.noClass, ready.holds.1, declaration, settled, Place.bracketKind]

/-- A brace after the token before an expression, outside of parameters and patterns. -/
theorem openerKind_shown (ready : Ready place start p s) (shown : place ≠ .hidden) :
    openerKind s "\x7b" (some p) =
      if p.kind = .operator ∧ p.text = ":" ∧ s.scope.kind = .block ∧ s.scope.conditionals = 0
      then .block else .object := by
  obtain ⟨-, declaration, -⟩ := ready.leads.inert
  have settled := ready.settled
  have visible : ¬(s.scope.kind = .pattern ∨ s.scope.kind = .params) ∧
      s.scope.kind ≠ .classBody := by
    have holds := ready.holds
    cases place with
    | hidden => exact absurd rfl shown
    | inner => rcases holds with kind | kind | kind <;> simp [kind]
    | bare pending => simp [holds.1]
  have kinds : p.kind = .operator ∨ p.kind = .punctuation ∧ p.text ∈ ["(", "[", ",", "..."] := by
    have leads := ready.leads
    cases start with
    | fresh => exact leads.imp And.left id
    | colon => exact Or.inl leads.1
    | method => exact Or.inr ⟨leads.1, by simp [leads.2]⟩
  unfold openerKind
  rw [if_neg (by decide), if_neg (by simp [ready.noClass]), if_neg visible.1,
    if_neg (by simp [declaration]), if_neg (by simp [settled]), if_neg (by decide)]
  dsimp only
  rcases kinds with kind | ⟨kind, text⟩
  · rw [if_neg (by simp [kind, Kind.isKeyword]), if_neg (by simp [kind]), if_pos kind]
    by_cases colon : p.text = ":" ∧ s.scope.kind = .block
    · rw [if_pos ⟨colon.1, Or.inl colon.2⟩]
      by_cases zero : s.scope.conditionals = 0
      · rw [if_neg (by simp [zero]), if_pos ⟨kind, colon.1, colon.2, zero⟩]
      · rw [if_pos zero, if_neg (by simp [zero])]
    · rw [if_neg (by simp_all), if_neg (fun whole => colon ⟨whole.2.1, whole.2.2.1⟩)]
  · rw [if_neg (by simp [kind, Kind.isKeyword]), if_neg (by simp [kind]), if_neg (by simp [kind]),
      if_pos kind, if_pos (by simpa using text), if_neg (by simp [kind])]

theorem openerKind_curly (ready : Ready place start p s) (noMethod : start ≠ .method) :
    openerKind s "\x7b" (some p) = (place.braces start).kind := by
  have leads := ready.leads
  have holds := ready.holds
  cases place with
  | hidden =>
    rcases holds with kind | kind <;>
      simp [openerKind, ready.noClass, kind, Place.braces, Braces.kind]
  | inner =>
    rw [openerKind_shown ready nofun]
    rcases holds with kind | kind | kind <;> simp [kind, Place.braces, Braces.kind]
  | bare pending =>
    rw [openerKind_shown ready nofun]
    obtain ⟨kind, rfl⟩ := holds
    cases start with
    | fresh =>
      have text : ¬(p.kind = .operator ∧ p.text = ":") := by
        rcases leads with ⟨-, ne, -⟩ | ⟨kind, -⟩
        · exact fun both => ne both.2
        · simp [kind]
      rw [if_neg fun whole => text ⟨whole.1, whole.2.1⟩]
      cases s.scope.conditionals <;> rfl
    | colon =>
      cases zero : s.scope.conditionals with
      | zero => rw [if_pos ⟨leads.1, leads.2, kind, rfl⟩]; rfl
      | succ n => rw [if_neg (by simp)]; rfl
    | method => exact absurd rfl noMethod

end Openers

/-- The state between the brackets that an opener begins. -/
def State.inside (s : State) (opener : Token) (kind : ScopeKind) : State :=
  { s with
    scope := Scope.opened kind s.references, outer := (opener, s.scope) :: s.outer,
    pendingParams := false }

theorem opening_eq {place : Place} {s : State} (at_ : At place s) (previous : Option Token)
    (t : Token) (params : t.text = "(" ∨ s.pendingParams = false) :
    s.opening previous t = s.inside t (openerKind s t.text previous) := by
  have key : s.scope.pastKey = s.scope := Scope.pastKey_eq_self at_.noKey
  unfold State.opening
  dsimp only
  by_cases round : t.text = "("
  · rw [if_pos round]
    simp only [State.enter, State.modifyScope, State.inside, key]
  · rw [if_neg round, if_neg (openerKind_ne_classBody (fun _ => at_.noClass) _)]
    simp only [State.enter, State.modifyScope, State.inside, key, params.resolve_left round]

/-! ## What is read -/

/-- The tokens after an expression: no arrow follows, and an argument list can be taken whole. -/
structure Continues (source : List Char) (rest : List Token) : Prop where
  noArrow : textIs "=>" rest.head? = false
  callable : textIs "(" rest.head? = true →
    ∃ taken, ∀ t, ∃ call, callAt source t rest = .ok (call, taken)

/-- Tokens after an expression that a call at its end takes. -/
def Skips (source : List Char) (rest : List Token) (taken : Nat) : Prop :=
  taken = 0 ∨
    textIs "(" rest.head? = true ∧ ∀ t, ∃ call, callAt source t rest = .ok (call, taken)

/-- References found among some that are reported, and all of them where no calls are. -/
def Among (names : List String) (found : List Reference) (calls : List Call)
    (reported : List Reference) : Prop :=
  found.Sublist reported ∧ (names = [] → found = reported ∧ calls = [])

/-- The pass goes over some tokens, and perhaps over an argument list after them, and finds
references that are reported there. -/
def Reads (source : List Char) (names : List String) (reported : List Reference) (s : State)
    (previous : Option Token) (tokens rest : List Token) : Prop :=
  ∃ references calls taken last, Among names references calls reported ∧
    (names = [] → taken = 0) ∧ Skips source rest taken ∧
    s.run source names previous (tokens ++ rest) =
      (s.found references calls).run source names last (rest.drop taken)

/-- The pass goes over some tokens alone. -/
def ReadsAll (source : List Char) (names : List String) (reported : List Reference) (s : State)
    (previous : Option Token) (tokens rest : List Token) : Prop :=
  ∃ references calls last, Among names references calls reported ∧
    s.run source names previous (tokens ++ rest) =
      (s.found references calls).run source names last rest

section Reading

variable {source : List Char} {names : List String} {reported reported' : List Reference}
  {s : State} {previous : Option Token} {tokens tokens' rest : List Token}

theorem Among.nil : Among names [] [] [] :=
  ⟨List.Sublist.refl [], fun _ => ⟨rfl, rfl⟩⟩

theorem Among.append {found found' : List Reference} {calls calls' : List Call}
    (among : Among names found calls reported) (among' : Among names found' calls' reported') :
    Among names (found ++ found') (calls' ++ calls) (reported ++ reported') := by
  refine ⟨among.1.append among'.1, fun none => ?_⟩
  obtain ⟨rfl, rfl⟩ := among.2 none
  obtain ⟨rfl, rfl⟩ := among'.2 none
  exact ⟨rfl, rfl⟩

theorem Reads.all (reads : Reads source names reported s previous tokens rest)
    (noList : textIs "(" rest.head? = false) :
    ReadsAll source names reported s previous tokens rest := by
  obtain ⟨references, calls, taken, last, among, -, skips, ran⟩ := reads
  rcases skips with rfl | ⟨list, -⟩
  · exact ⟨references, calls, last, among, ran⟩
  · rw [noList] at list
    cases list

theorem ReadsAll.reads (all : ReadsAll source names reported s previous tokens rest) :
    Reads source names reported s previous tokens rest := by
  obtain ⟨references, calls, last, among, ran⟩ := all
  exact ⟨references, calls, 0, last, among, fun _ => rfl, Or.inl rfl, ran⟩

theorem ReadsAll.nil (params : s.pendingParams = false) :
    ReadsAll source names [] s previous [] rest :=
  ⟨[], [], previous, .nil, by rw [State.found_nil params]; rfl⟩

theorem ReadsAll.cons {t : Token}
    (step : s.step source names previous t (tokens ++ rest) = .ok (s, 0))
    (all : ReadsAll source names reported s (some t) tokens rest) :
    ReadsAll source names reported s previous (t :: tokens) rest := by
  obtain ⟨references, calls, last, among, ran⟩ := all
  exact ⟨references, calls, last, among, (run_cons step).trans ran⟩

theorem Reads.cons {t : Token}
    (step : s.step source names previous t (tokens ++ rest) = .ok (s, 0))
    (reads : Reads source names reported s (some t) tokens rest) :
    Reads source names reported s previous (t :: tokens) rest := by
  obtain ⟨references, calls, taken, last, among, none, skips, ran⟩ := reads
  exact ⟨references, calls, taken, last, among, none, skips, (run_cons step).trans ran⟩

theorem ReadsAll.append (all : ReadsAll source names reported s previous tokens (tokens' ++ rest))
    (later : ∀ references calls last,
      Reads source names reported' (s.found references calls) last tokens' rest) :
    Reads source names (reported ++ reported') s previous (tokens ++ tokens') rest := by
  obtain ⟨references, calls, last, among, ran⟩ := all
  obtain ⟨references', calls', taken, last', among', none, skips, ran'⟩ :=
    later references calls last
  refine ⟨references ++ references', calls' ++ calls, taken, last', among.append among', none,
    skips, ?_⟩
  rw [List.append_assoc, ran, ran', State.found_found]

theorem ReadsAll.append_all
    (all : ReadsAll source names reported s previous tokens (tokens' ++ rest))
    (later : ∀ references calls last,
      ReadsAll source names reported' (s.found references calls) last tokens' rest) :
    ReadsAll source names (reported ++ reported') s previous (tokens ++ tokens') rest := by
  obtain ⟨references, calls, last, among, ran⟩ := all
  obtain ⟨references', calls', last', among', ran'⟩ := later references calls last
  refine ⟨references ++ references', calls' ++ calls, last', among.append among', ?_⟩
  rw [List.append_assoc, ran, ran', State.found_found]

/-- The pass goes over tokens between brackets, and may leave its scope with no key due. -/
def ReadsWithin (source : List Char) (names : List String) (reported : List Reference) (s : State)
    (previous : Option Token) (tokens rest : List Token) : Prop :=
  ∃ references calls last key, Among names references calls reported ∧
    (key = true → s.scope.expectsKey = true) ∧
    s.run source names previous (tokens ++ rest) =
      ((s.found references calls).modifyScope ({ · with expectsKey := key })).run source names last
        rest

theorem ReadsAll.within (all : ReadsAll source names reported s previous tokens rest) :
    ReadsWithin source names reported s previous tokens rest := by
  obtain ⟨references, calls, last, among, ran⟩ := all
  exact ⟨references, calls, last, s.scope.expectsKey, among, id, ran⟩

/-- The pass goes over brackets if it goes over the tokens between them. -/
theorem ReadsWithin.enclosed {text text' : String} (opener : Mark text) (closer : Mark text')
    (matching : Token.closerOf text = some text') {kind : ScopeKind} (code : kind ≠ .substitution)
    (settled : s.scope.declaring = false)
    (opened : s.opening previous opener.token = s.inside opener.token kind)
    (within : ReadsWithin source names reported (s.inside opener.token kind) (some opener.token)
      tokens (closer.token :: rest))
    (noArrow : textIs "=>" rest.head? = false) :
    ReadsAll source names reported s previous (opener.token :: tokens ++ [closer.token]) rest := by
  obtain ⟨references, calls, last, key, among, -, ran⟩ := within
  have matching : Token.closerOf opener.token.text = some closer.token.text := by
    rw [opener.same, closer.same, matching]
  obtain ⟨opens, -, -⟩ := opens_of_matching opener.punctuation matching
  obtain ⟨notOpens, closes, -⟩ := closes_of_matching closer.punctuation matching
  generalize insideIs : ((s.inside opener.token kind).found references calls).modifyScope
    ({ · with expectsKey := key }) = u at ran
  have around : u.outer = (opener.token, s.scope) :: s.outer := by rw [← insideIs]; rfl
  have left := leave_eq around (by rw [← insideIs]; exact code) matching
  have step : u.step source names last closer.token rest = .ok (s.found references calls, 0) := by
    have settledInside : u.scope.declaring = false := by rw [← insideIs]; rfl
    rw [step_closer closer.punctuation notOpens closes, settle_eq_self settledInside, State.closing,
      left]
    dsimp only
    rw [if_neg (by simp [noArrow]), ← insideIs]
    rfl
  refine ⟨references, calls, some closer.token, among, ?_⟩
  rw [List.append_assoc, List.cons_append, run_cons (step_opener opener.punctuation opens s _),
    settle_eq_self settled, opened, List.singleton_append, ran, run_cons step]

end Reading

end Folio.Script
