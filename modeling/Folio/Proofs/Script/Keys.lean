import Folio.Proofs.Script.Passage
import Folio.Proofs.Script.Placement

/-!
# References and property keys

The references reported along an assigned expression are those that it has if the pass meets each
of its names and keys for what it is (`parse_assignment`). The pass fails to where it takes the
braces of an object literal for a block or for a pattern, and at names that do not begin in ASCII.
-/

namespace Folio.Script

/-! ## Clear occurrences -/

/-- Whether the pass meets a name or a key for what it is. -/
def Occurrence.IsClear : Occurrence → Prop
  | name place n => place ≠ .hidden ∧ isSimpleName n.token.text = true
  | shorthand braces n => braces = .object ∧ isSimpleName n.token.text = true
  | key braces k =>
    braces = .object ∨ k.token.kind ≠ .declaration ∧
      ¬(braces = .block ∧ k.token.kind = .plainName ∧ isSimpleName k.token.text = true)

instance : DecidablePred Occurrence.IsClear
  | .name _ _ => inferInstanceAs (Decidable (_ ∧ _))
  | .shorthand _ _ => inferInstanceAs (Decidable (_ ∧ _))
  | .key _ _ => inferInstanceAs (Decidable (_ ∨ _))

/-- Whether an expression after an equals sign is clear: no name of it stands directly in a spread
parenthesis or begins outside of ASCII, and no object literal with a shorthand or a plain key is
read as a block, as one is that is the last part of a conditional and stands in no brackets. -/
def Expression.IsClear (e : Expression) : Prop :=
  ∀ o ∈ e.occurrences (.bare 0) .fresh, o.IsClear

instance (e : Expression) : Decidable e.IsClear :=
  inferInstanceAs (Decidable (∀ o ∈ _, _))

theorem reportedAt_eq_some_iff {place : Place} {t : Token} {r : Reference} :
    Occurrence.reportedAt place t = some r ↔
      (t.kind = .plainName ∧ isSimpleName t.text = true ∧ place ≠ .hidden) ∧
        r = ⟨t.text, t.start, false⟩ := by
  unfold Occurrence.reportedAt
  split
  · next all => simp [all, eq_comm]
  · next none => simp [none]

theorem reportedAt_eq_none_iff {place : Place} {t : Token} :
    Occurrence.reportedAt place t = none ↔
      ¬(t.kind = .plainName ∧ isSimpleName t.text = true ∧ place ≠ .hidden) := by
  unfold Occurrence.reportedAt
  split
  · next all => simp [all]
  · next none => simpa using none

namespace Occurrence

theorem declares_of_isClear {o : Occurrence} (clear : o.IsClear) : o.declares = false := by
  cases o with
  | name place n => rfl
  | shorthand braces n => cases braces <;> rfl
  | key braces k =>
    cases braces with
    | object => rfl
    | block => exact beq_false_of_ne (clear.resolve_left nofun).1
    | pattern => exact beq_false_of_ne (clear.resolve_left nofun).1

/-- Where no declaring word is misread, an occurrence is clear if it is reported as it should. -/
theorem reported_eq_expected_iff {o : Occurrence} (quiet : o.declares = false) :
    o.reported = o.expected ↔ o.IsClear := by
  cases o with
  | name place n =>
    change reportedAt place n.token = some ⟨n.token.text, n.token.start, false⟩ ↔ _
    rw [reportedAt_eq_some_iff]
    simp [IsClear, n.plain, and_comm]
  | shorthand braces n =>
    cases braces with
    | object =>
      change (if isSimpleName n.token.text = true then some (n.reference true) else none) =
        some (n.reference true) ↔ _
      simp [IsClear]
    | block =>
      change reportedAt (.bare 0) n.token = some ⟨n.token.text, n.token.start, true⟩ ↔ _
      simp [reportedAt_eq_some_iff, IsClear]
    | pattern =>
      change reportedAt .hidden n.token = some ⟨n.token.text, n.token.start, true⟩ ↔ _
      simp [reportedAt_eq_some_iff, IsClear]
  | key braces k =>
    cases braces with
    | object => exact iff_of_true rfl (Or.inl rfl)
    | block =>
      have word : k.token.kind ≠ .declaration := ne_of_beq_false quiet
      change reportedAt (.bare 0) k.token = none ↔ _
      simp [reportedAt_eq_none_iff, IsClear, word]
    | pattern =>
      have word : k.token.kind ≠ .declaration := ne_of_beq_false quiet
      change reportedAt .hidden k.token = none ↔ _
      simp [reportedAt_eq_none_iff, IsClear, word]

theorem start_of_reported {o : Occurrence} {r : Reference} (reported : o.reported = some r) :
    r.start = o.token.start := by
  have bare {place : Place} {t : Token} (reported : reportedAt place t = some r) :
      r.start = t.start := by
    rw [(reportedAt_eq_some_iff.1 reported).2]
  cases o with
  | name place n => exact bare reported
  | shorthand braces n =>
    cases braces with
    | object =>
      change (if isSimpleName n.token.text = true then some (n.reference true) else none) =
        some r at reported
      split at reported
      · cases reported
        rfl
      · cases reported
    | block => exact bare reported
    | pattern => exact bare reported
  | key braces k =>
    cases braces with
    | object => cases reported
    | block => exact bare reported
    | pattern => exact bare reported

theorem start_of_expected {o : Occurrence} {r : Reference} (expected : o.expected = some r) :
    r.start = o.token.start := by
  cases o <;> cases expected <;> rfl

end Occurrence

/-! ## Occurrences and tokens -/

mutual

theorem Expression.expected_eq : ∀ (e : Expression) (place : Place) (start : Start),
    (e.occurrences place start).filterMap Occurrence.expected = e.references
  | .name n, place, start => rfl
  | .literal l, place, start => rfl
  | .member e dot n, place, start => e.expected_eq place start
  | .call callee opener arguments closer, place, start => by
    rw [Expression.occurrences, List.filterMap_append, callee.expected_eq, arguments.expected_eq]
    rfl
  | .array opener elements closer, place, start => elements.expected_eq place.elements
  | .group opener inner closer, place, start => inner.expected_eq start.group .fresh
  | .binary left operator right, place, start => by
    rw [Expression.occurrences, List.filterMap_append, left.expected_eq, right.expected_eq]
    rfl
  | .conditional test question yes colon no, place, start => by
    rw [Expression.occurrences, List.filterMap_append, List.filterMap_append, test.expected_eq,
      yes.expected_eq, no.expected_eq]
    rfl
  | .object opener properties closer, place, start => properties.expected_eq (place.braces start)

theorem Elements.expected_eq : ∀ (es : Elements) (place : Place),
    (es.occurrences place).filterMap Occurrence.expected = es.references
  | .nil, place => rfl
  | .last e, place => e.expected_eq place .fresh
  | .more e comma es, place => by
    rw [Elements.occurrences, List.filterMap_append, e.expected_eq, es.expected_eq]
    rfl

theorem Property.expected_eq : ∀ (p : Property) (braces : Braces),
    (p.occurrences braces).filterMap Occurrence.expected = p.references
  | .keyed _ _ value, braces => by
    rw [Property.occurrences, List.filterMap_cons_none rfl, value.expected_eq]
    rfl
  | .shorthand _, _ => rfl
  | .spread dots e, braces => e.expected_eq braces.place (e.spreadStart braces)

theorem Properties.expected_eq : ∀ (ps : Properties) (braces : Braces),
    (ps.occurrences braces).filterMap Occurrence.expected = ps.references
  | .nil, braces => rfl
  | .last p, braces => p.expected_eq braces
  | .more p comma ps, braces => by
    rw [Properties.occurrences, List.filterMap_append, p.expected_eq, ps.expected_eq]
    rfl

end

mutual

theorem Expression.occurrences_sublist : ∀ (e : Expression) (place : Place) (start : Start),
    ((e.occurrences place start).map Occurrence.token).Sublist e.tokens
  | .name n, place, start => .refl _
  | .literal l, place, start => List.nil_sublist _
  | .member e dot n, place, start =>
    (e.occurrences_sublist place start).trans (List.sublist_append_left _ _)
  | .call callee opener arguments closer, place, start => by
    rw [Expression.occurrences, Expression.tokens, List.map_append, List.append_assoc]
    exact (callee.occurrences_sublist place start).append
      (((arguments.occurrences_sublist .inner).trans (List.sublist_append_left _ _)).cons _)
  | .array opener elements closer, place, start =>
    ((elements.occurrences_sublist place.elements).trans (List.sublist_append_left _ _)).cons _
  | .group opener inner closer, place, start =>
    ((inner.occurrences_sublist start.group .fresh).trans (List.sublist_append_left _ _)).cons _
  | .binary left operator right, place, start => by
    rw [Expression.occurrences, Expression.tokens, List.map_append]
    exact (left.occurrences_sublist place start).append
      ((right.occurrences_sublist place .fresh).cons _)
  | .conditional test question yes colon no, place, start => by
    rw [Expression.occurrences, Expression.tokens, List.map_append, List.map_append]
    exact ((test.occurrences_sublist place start).append
      ((yes.occurrences_sublist place.asking .fresh).cons _)).append
      ((no.occurrences_sublist place .colon).cons _)
  | .object opener properties closer, place, start =>
    ((properties.occurrences_sublist (place.braces start)).trans
      (List.sublist_append_left _ _)).cons _

theorem Elements.occurrences_sublist : ∀ (es : Elements) (place : Place),
    ((es.occurrences place).map Occurrence.token).Sublist es.tokens
  | .nil, place => .refl _
  | .last e, place => e.occurrences_sublist place .fresh
  | .more e comma es, place => by
    rw [Elements.occurrences, Elements.tokens, List.map_append]
    exact (e.occurrences_sublist place .fresh).append ((es.occurrences_sublist place).cons _)

theorem Property.occurrences_sublist : ∀ (p : Property) (braces : Braces),
    ((p.occurrences braces).map Occurrence.token).Sublist p.tokens
  | .keyed _ _ value, braces =>
    ((value.occurrences_sublist braces.place .colon).cons _).cons_cons _
  | .shorthand _, _ => .refl _
  | .spread _ e, braces =>
    (e.occurrences_sublist braces.place (e.spreadStart braces)).cons _

theorem Properties.occurrences_sublist : ∀ (ps : Properties) (braces : Braces),
    ((ps.occurrences braces).map Occurrence.token).Sublist ps.tokens
  | .nil, braces => .refl _
  | .last p, braces => p.occurrences_sublist braces
  | .more p comma ps, braces => by
    rw [Properties.occurrences, Properties.tokens, List.map_append]
    exact (p.occurrences_sublist braces).append ((ps.occurrences_sublist braces).cons _)

end

/-- Occurrences at ascending tokens that report what they should as a whole do so one by one. -/
theorem reported_eq_of_filterMap {occurrences : List Occurrence}
    (ascending : (occurrences.map Occurrence.token).Pairwise fun t t' => t.start < t'.start)
    (same : occurrences.filterMap Occurrence.reported =
      occurrences.filterMap Occurrence.expected) :
    ∀ o ∈ occurrences, o.reported = o.expected := by
  induction occurrences with
  | nil => exact fun o member => by cases member
  | cons o occurrences ih =>
    rw [List.map_cons, List.pairwise_cons] at ascending
    obtain ⟨below, ascending⟩ := ascending
    have later {f : Occurrence → Option Reference} {r : Reference}
        (starts : ∀ {o r}, f o = some r → r.start = o.token.start)
        (member : r ∈ occurrences.filterMap f) : o.token.start < r.start := by
      obtain ⟨o', member, found⟩ := List.mem_filterMap.1 member
      rw [starts found]
      exact below _ (List.mem_map_of_mem member)
    have head : o.reported = o.expected := by
      cases reported : o.reported with
      | none =>
        cases expected : o.expected with
        | none => rfl
        | some r =>
          rw [List.filterMap_cons_none reported, List.filterMap_cons_some expected] at same
          have := later Occurrence.start_of_reported (same ▸ List.mem_cons_self)
          rw [Occurrence.start_of_expected expected] at this
          exact absurd this (Nat.lt_irrefl _)
      | some r =>
        cases expected : o.expected with
        | none =>
          rw [List.filterMap_cons_some reported, List.filterMap_cons_none expected] at same
          have := later Occurrence.start_of_expected (same ▸ List.mem_cons_self)
          rw [Occurrence.start_of_reported reported] at this
          exact absurd this (Nat.lt_irrefl _)
        | some r' =>
          rw [List.filterMap_cons_some reported, List.filterMap_cons_some expected] at same
          rw [(List.cons.inj same).1]
    have tail : occurrences.filterMap Occurrence.reported =
        occurrences.filterMap Occurrence.expected := by
      rw [filterMap_cons, filterMap_cons, head] at same
      exact List.append_cancel_left same
    intro o' member
    rcases List.mem_cons.1 member with rfl | member
    · exact head
    · exact ih ascending tail o' member

/-! ## Assigned expressions -/

section Assignment

variable {source : List Char} (x : Name) (assign : Sign "=") (e : Expression) (semicolon : Mark ";")

/-- The tokens of an assignment. -/
def assignmentTokens : List Token :=
  x.token :: assign.token :: e.tokens ++ [semicolon.token]

theorem assignmentTokens_closed : Closed false (assignmentTokens x assign e semicolon) :=
  .name x (.sign assign rfl rfl (e.closed.append (.mark semicolon rfl rfl (Or.inr (by decide)) .nil)))

theorem initial_at : At (.bare 0) State.initial :=
  ⟨⟨rfl, rfl⟩, rfl, rfl, rfl⟩

/-- A run over an assignment finds references that the expression's occurrences report. -/
theorem run_assignment (simple : isSimpleName x.token.text = true) (names : List String)
    (quiet : Undeclared (e.occurrences (.bare 0) .fresh)) :
    ∃ f references calls, Among names references calls
        (x.reference false :: (e.occurrences (.bare 0) .fresh).filterMap Occurrence.reported) ∧
      State.initial.run source names none (assignmentTokens x assign e semicolon) = .ok f ∧
      f.references = references.reverse := by
  have named : Occurrence.reportedAt (.bare 0) x.token = some (x.reference false) :=
    reportedAt_eq_some_iff.2 ⟨⟨x.plain, simple, by decide⟩, rfl⟩
  have step : State.initial.step source names none x.token
      (assign.token :: (e.tokens ++ [semicolon.token])) =
        .ok (State.initial.found [x.reference false] [], 0) := by
    rw [step_name initial_at rfl ⟨rfl, rfl, rfl⟩ x.plain (by simp [assign.same])
      (by simp [assign.same]), named]
    rfl
  have at_ := initial_at.found [x.reference false] []
  have assigned : (State.initial.found [x.reference false] []).step source names (some x.token)
      assign.token (e.tokens ++ [semicolon.token]) =
        .ok (State.initial.found [x.reference false] [], 0) :=
    step_quiet at_.noKey at_.settled (assign.not_bracket rfl rfl)
      (Or.inl (by simp [Token.isPunctuation, assign.operator])) (by simp [assign.operator])
      (by simp [assign.same])
  have ready : Ready (.bare 0) .fresh assign.token (State.initial.found [x.reference false] []) :=
    ⟨at_, by simp [State.found], Or.inl ⟨assign.operator, by simp [assign.same],
      by simp [assign.same]⟩⟩
  have all : ReadsAll source names _ (State.initial.found [x.reference false] [])
      (some assign.token) e.tokens [semicolon.token] :=
    (e.reads ready (by simp) quiet (semicolon.continues (by decide) (by decide))).all
      (semicolon.noList (by decide))
  obtain ⟨references, calls, last, among, ran⟩ := all
  have ended : ((State.initial.found [x.reference false] []).found references calls).step source
      names last semicolon.token [] = .ok (_, 0) :=
    semicolon.step_quiet (at_.found references calls) rfl rfl (Or.inl (by decide))
  refine ⟨(State.initial.found [x.reference false] []).found references calls,
    x.reference false :: references, calls, ⟨among.1.cons_cons _, fun none => ?_⟩, ?_, ?_⟩
  · obtain ⟨rfl, rfl⟩ := among.2 none
    exact ⟨rfl, rfl⟩
  · rw [assignmentTokens, List.cons_append, List.cons_append, run_cons step, run_cons assigned, ran,
      run_cons ended, State.run]
    rfl
  · simp [State.found, State.initial]

theorem parse_eq_ok {names : List String} {tokens : List Token} {f : State}
    (scanned : scan source = .ok tokens)
    (ran : State.initial.run source names none (significant tokens) = .ok f) :
    parse names source = .ok ⟨source, f.references.reverse, f.calls.reverse⟩ := by
  rw [parse, scanned]
  dsimp only
  rw [ran]

/-- An assigned expression is read, whatever it is. If it is clear, the references reported after
the assigned name are its own, and some of them where calls are reported as well. If no declaring
word is a key in it, they are its own only if it is clear. -/
theorem parse_assignment
    (spelled : (scan source).map significant = .ok (assignmentTokens x assign e semicolon))
    (simple : isSimpleName x.token.text = true) :
    (∃ tree, parse [] source = .ok tree ∧ tree.calls = [] ∧
      (e.IsClear → tree.references = x.reference false :: e.references) ∧
      ((∀ t ∈ e.tokens, t.kind ≠ .declaration) →
        tree.references = x.reference false :: e.references → e.IsClear)) ∧
    (e.IsClear → ∀ names, ∃ tree, parse names source = .ok tree ∧
      tree.references.Sublist (x.reference false :: e.references)) := by
  obtain ⟨tokens, scanned, spelled⟩ := map_ok spelled
  have clear (isClear : e.IsClear) (names : List String) :
      ∃ tree, parse names source = .ok tree ∧
        tree.references.Sublist (x.reference false :: e.references) ∧
        (names = [] → tree.references = x.reference false :: e.references) := by
    have quiet : Undeclared (e.occurrences (.bare 0) .fresh) :=
      fun o member => Occurrence.declares_of_isClear (isClear o member)
    have same : (e.occurrences (.bare 0) .fresh).filterMap Occurrence.reported = e.references := by
      rw [← e.expected_eq (.bare 0) .fresh]
      exact List.filterMap_congr fun o member =>
        (Occurrence.reported_eq_expected_iff (quiet o member)).2 (isClear o member)
    obtain ⟨f, references, calls, among, ran, found⟩ :=
      @run_assignment source x assign e semicolon simple names quiet
    rw [same] at among
    refine ⟨_, parse_eq_ok scanned (spelled ▸ ran), ?_, fun none => ?_⟩
    · simpa [found] using among.1
    · simpa [found] using (among.2 none).1
  refine ⟨?_, fun isClear names => ?_⟩
  · have closed := assignmentTokens_closed x assign e semicolon
    obtain ⟨s, last, ran, level⟩ :=
      @Nested.run_append source _ _ closed.1 closed.2 State.initial none []
    have ended : s.run source [] last [] = .ok s := by
      rw [State.run, level.1]
      rfl
    rw [List.append_nil, ended, ← spelled] at ran
    have parsed := parse_eq_ok scanned ran
    have unique {tree : Tree} (parsed' : parse [] source = .ok tree) :
        tree = ⟨source, s.references.reverse, s.calls.reverse⟩ :=
      Except.ok.inj (parsed'.symm.trans parsed)
    refine ⟨_, parsed, ?_, fun isClear => ?_, fun words same => ?_⟩
    · obtain ⟨-, calls, -, -, _, -, placed⟩ := parse_placed parsed
      rw [← calls]
      exact List.eq_nil_iff_forall_not_mem.2 fun c member =>
        List.not_mem_nil (placed.named c member)
    · obtain ⟨tree, parsed', -, exact⟩ := clear isClear []
      rw [← unique parsed']
      exact exact rfl
    · have quiet : Undeclared (e.occurrences (.bare 0) .fresh) := by
        intro o member
        have kind := words o.token ((e.occurrences_sublist (.bare 0) .fresh).subset
          (List.mem_map_of_mem member))
        cases o with
        | name place n => rfl
        | shorthand braces n => cases braces <;> rfl
        | key braces k => cases braces <;> first | rfl | exact beq_false_of_ne kind
      obtain ⟨f, references, calls, among, ran', found⟩ :=
        @run_assignment source x assign e semicolon simple [] quiet
      have parsed' := unique (parse_eq_ok scanned (spelled ▸ ran'))
      have reported : (e.occurrences (.bare 0) .fresh).filterMap Occurrence.reported =
          e.references := by
        have equal := (among.2 rfl).1
        rw [← parsed', found, List.reverse_reverse, equal] at same
        exact (List.cons.inj same).2
      have ascending := (significant_ascending scanned).pairwise.2
      rw [spelled, assignmentTokens] at ascending
      have within : ((e.occurrences (.bare 0) .fresh).map Occurrence.token).Sublist
          (x.token :: assign.token :: e.tokens ++ [semicolon.token]) :=
        ((((e.occurrences_sublist (.bare 0) .fresh).trans
          (List.sublist_append_left _ _)).cons _).cons _)
      have single := reported_eq_of_filterMap (ascending.sublist within)
        (reported.trans (e.expected_eq (.bare 0) .fresh).symm)
      exact fun o member =>
        (Occurrence.reported_eq_expected_iff (quiet o member)).1 (single o member)
  · obtain ⟨tree, parsed, sublist, -⟩ := clear isClear names
    exact ⟨tree, parsed, sublist⟩

end Assignment

/-- `{ a, b: c }` refers to `a` and to `c`. -/
theorem parse_assignment_of_object : ∃ tree, parse [] "x = { a, b: c };".toList = .ok tree ∧
    tree.references = [⟨"x", 0, false⟩, ⟨"a", 6, true⟩, ⟨"c", 12, false⟩] := by
  let object : Expression := .object (.ofOffset "\x7b" 4)
    (.more (.shorthand (.ofText "a" 6 (by decide +kernel))) (.ofOffset "," 7)
      (.last (.keyed (Name.ofText "b" 9 (by decide +kernel)).key (.ofOffset ":" 10)
        (.name (.ofText "c" 12 (by decide +kernel))))))
    (.ofOffset "\x7d" 14)
  obtain ⟨⟨tree, parsed, -, references, -⟩, -⟩ := @parse_assignment "x = { a, b: c };".toList
    (.ofText "x" 0 (by decide +kernel)) (.ofOffset "=" 2) object (.ofOffset ";" 15)
    (by decide +kernel) (by decide)
  exact ⟨tree, parsed, references (by decide +kernel)⟩

/-- After the last colon of a conditional braces are read as a block and a key as a reference. -/
theorem parse_assignment_fails : ∃ tree, parse [] "x = a ? b : { c: d };".toList = .ok tree ∧
    (∃ (x : Name) (assign : Sign "=") (e : Expression) (semicolon : Mark ";"),
      (scan "x = a ? b : { c: d };".toList).map significant =
        .ok (assignmentTokens x assign e semicolon) ∧
      tree.references ≠ x.reference false :: e.references) := by
  refine ⟨⟨"x = a ? b : { c: d };".toList, [⟨"x", 0, false⟩, ⟨"a", 4, false⟩, ⟨"b", 8, false⟩,
      ⟨"c", 14, false⟩, ⟨"d", 17, false⟩], []⟩, by decide +kernel,
    .ofText "x" 0 (by decide +kernel), .ofOffset "=" 2,
    .conditional (.name (.ofText "a" 4 (by decide +kernel))) (.ofOffset "?" 6)
      (.name (.ofText "b" 8 (by decide +kernel))) (.ofOffset ":" 10)
      (.object (.ofOffset "\x7b" 12)
        (.last (.keyed (Name.ofText "c" 14 (by decide +kernel)).key (.ofOffset ":" 15)
          (.name (.ofText "d" 17 (by decide +kernel)))))
        (.ofOffset "\x7d" 19)),
    .ofOffset ";" 20, by decide +kernel, ?_⟩
  decide

end Folio.Script
