import Folio.Proofs.Script.Balanced

/-!
# Which scripts are accepted

The open brackets of a state await what the reader with a stack does (`State.awaited`), and a step
that meets no call is a step of that reader (`step_agrees`). So a pass that reports no calls accepts
the balanced scripts. A reported call is skipped up to where the count of brackets ends it: the pass
agrees with the reader if that is the bracket which closes its list (`ListsEnd`), and it is so in a
script whose brackets are strictly balanced (`parse_balanced`).
-/

namespace Folio

/-- Whether a bracket is wrong. -/
def Cause.isUnbalanced : Cause → Bool
  | unclosed _ | unexpectedCloser _ | mismatched _ _ _ | unclosedCall _ => true
  | _ => false

namespace Script

/-! ## What is awaited -/

/-- What the open brackets around a scope of some kind await. -/
def awaitedFrom (kind : ScopeKind) : List (Token × Scope) → List String
  | [] => []
  | (opener, scope) :: outer =>
    (if kind = .substitution then "\x7d" else (Token.closerOf opener.text).getD "") ::
      awaitedFrom scope.kind outer

def State.awaited (s : State) : List String :=
  awaitedFrom s.scope.kind s.outer

/-- Whether a step comes to a state that awaits what the reader does, or fails for a bracket as the
reader does. -/
def Agrees (next : Option (List String)) (outcome : Except Defect State) : Prop :=
  match next with
  | some after => ∃ s, outcome = .ok s ∧ s.awaited = after
  | none => ∃ d, outcome = .error d ∧ d.cause.isUnbalanced = true

section Step

variable {source : List Char} {names : List String} {s s' : State} {previous : Option Token}
  {t : Token} {rest : List Token}

theorem Level.awaited (level : Level s s') : s'.awaited = s.awaited := by
  rw [State.awaited, level.1, level.2]
  rfl

/-- The pass leaves a scope if its closing text is the next one awaited. -/
theorem leave_agrees (closes : t.ends = true) :
    Agrees (shift s.awaited t) (s.leave t t.text) := by
  unfold shift State.leave State.awaited
  rw [Token.awaits_of_ends closes]
  simp only [closes, if_true]
  cases s.outer with
  | nil => exact ⟨_, rfl, rfl⟩
  | cons around outer =>
    obtain ⟨opener, scope⟩ := around
    dsimp only [awaitedFrom]
    by_cases same : t.text = s.scope.closer opener
    · rw [if_pos same]
      unfold Scope.closer at same
      rw [if_pos same]
      exact ⟨_, rfl, rfl⟩
    · rw [if_neg same]
      unfold Scope.closer at same
      rw [if_neg same]
      exact ⟨_, rfl, rfl⟩

theorem closing_agrees (closes : t.ends = true) (following : Option Token) :
    Agrees (shift s.awaited t) (s.closing t following) := by
  have left := leave_agrees (s := s) closes
  unfold State.closing
  cases found : shift s.awaited t with
  | some after =>
    rw [found] at left
    obtain ⟨s', leaves, awaited⟩ := left
    rw [leaves]
    dsimp only
    split <;> exact ⟨_, rfl, awaited⟩
  | none =>
    rw [found] at left
    obtain ⟨d, fails, cause⟩ := left
    rw [fails]
    exact ⟨d, rfl, cause⟩

/-- A token that meets no call does to what is awaited what the reader with a stack does. -/
theorem step_agrees (proper : t.IsProper) (uncalled : ¬ s.MeetsCall names previous t rest.head?) :
    ∃ outcome, s.step source names previous t rest = outcome.map (·, 0) ∧
      Agrees (shift s.awaited t) outcome := by
  rw [← (Level.settle s previous t).awaited]
  by_cases mark : t.kind = .substitution
  · by_cases close : t.text = "\x7d"
    · have closes : t.ends = true := by simp [Token.ends, mark, close]
      refine ⟨_, ?_, leave_agrees closes⟩
      unfold State.step
      dsimp only
      rw [if_pos mark, if_pos close, close]
    · have opens : t.awaits = some "\x7d" := by simp [Token.awaits, mark, close]
      refine ⟨.ok ((s.settle previous t).enter t .substitution), ?_, ?_⟩
      · unfold State.step
        dsimp only
        rw [if_pos mark, if_neg close]
        rfl
      · rw [shift_opener opens]
        exact ⟨_, rfl, rfl⟩
  · by_cases opens : t.opens = true
    · have opening := proper (Or.inl opens)
      obtain ⟨closer, matching⟩ := Option.isSome_iff_exists.1 (Bool.and_eq_true_iff.1 opens).2
      have awaits : t.awaits = some closer := by simp [Token.awaits, opening, matching]
      obtain ⟨scope, outer, kind, code⟩ := opening_level (s.settle previous t) previous t
      refine ⟨.ok ((s.settle previous t).opening previous t), step_opener opening opens s rest, ?_⟩
      rw [shift_opener awaits]
      refine ⟨_, rfl, ?_⟩
      rw [State.awaited, outer, awaitedFrom, if_neg code, matching, kind]
      rfl
    · by_cases closes : t.closes = true
      · have closing := proper (Or.inr closes)
        have ends : t.ends = true := by
          simp [Token.ends, closing, (Bool.and_eq_true_iff.1 closes).2]
        exact ⟨_, step_closer closing (Bool.eq_false_iff.2 opens) closes s rest,
          closing_agrees ends _⟩
      · have opens := Bool.eq_false_iff.2 opens
        have closes := Bool.eq_false_iff.2 closes
        obtain ⟨s', step, level⟩ := @step_level source names previous t opens closes mark s rest
          uncalled
        refine ⟨.ok s', step, ?_⟩
        obtain ⟨awaits, ends⟩ := Token.plain_of_not_bracket mark opens closes
        rw [shift_plain awaits ends]
        exact ⟨s', rfl, level.awaited.trans (Level.settle s previous t).awaited.symm⟩

/-- A call goes on behind its list with the same awaited, or fails with it. -/
theorem step_call (call : s.MeetsCall names previous t rest.head?) :
    match callAt source t rest with
    | .error d => s.step source names previous t rest = .error d
    | .ok (_, taken) => ∃ s', s.step source names previous t rest = .ok (s', taken) ∧
        s'.awaited = s.awaited := by
  obtain ⟨plain, value, role⟩ := call
  rw [step_plainName rfl value plain, State.name, role]
  dsimp only
  cases callAt source t rest with
  | error d => rfl
  | ok found =>
    obtain ⟨c, taken⟩ := found
    refine ⟨_, rfl, ?_⟩
    exact (Level.pastKey _).awaited.trans (Level.settle s previous t).awaited

end Step

/-! ## Lists of arguments -/

/-- Whether the pass meets a reported call. -/
def Visit.MeetsCall (names : List String) (v : Visit) : Prop :=
  v.state.MeetsCall names v.previous v.token v.rest.head?

/-- Whether the count of brackets ends the list of a call, whose name some tokens follow, at the
bracket that closes it. -/
def EndsList (rest : List Token) : Prop :=
  ∃ inside close, takeClosed 0 rest.tail = some (inside, close) ∧ Balanced false inside ∧
    close.text = ")"

/-- Whether the list of each reported call ends where it is closed. -/
def ListsEnd (source : List Char) (names : List String) (s : State) (previous : Option Token)
    (tokens : List Token) : Prop :=
  ∀ v ∈ s.visits source names previous tokens, v.MeetsCall names → EndsList v.rest

section List

variable {source : List Char} {names : List String} {s s' : State} {previous : Option Token}
  {t : Token} {rest tokens : List Token} {taken : Nat}

theorem ListsEnd.later (ends : ListsEnd source names s previous (t :: rest))
    (step : s.step source names previous t rest = .ok (s', taken)) :
    ListsEnd source names s' (t :: rest)[taken]? (rest.drop taken) := by
  intro v member
  refine ends v ?_
  rw [visits_cons step]
  exact List.mem_cons_of_mem _ member

theorem ListsEnd.first (ends : ListsEnd source names s previous (t :: rest))
    (call : s.MeetsCall names previous t rest.head?) : EndsList rest := by
  refine ends ⟨⟨previous, t, rest⟩, s⟩ ?_ call
  rw [State.visits]
  split <;> exact List.mem_cons_self

theorem suffix_of_mem_visits {v : Visit} (member : v ∈ s.visits source names previous tokens) :
    v.token :: v.rest <:+ tokens := by
  fun_induction State.visits source names s previous tokens with
  | case1 => cases member
  | case2 s previous t rest defect step =>
    cases List.mem_singleton.1 member
    exact List.suffix_refl _
  | case3 s previous t rest s' taken step ih =>
    rcases List.mem_cons.1 member with rfl | member
    · exact List.suffix_refl _
    · exact ((ih member).trans (List.drop_suffix taken rest)).trans (List.suffix_cons t rest)

theorem opener_of_meetsCall (lexed : Lexed (t :: rest))
    (call : s.MeetsCall names previous t rest.head?) :
    ∃ opener tail, rest = opener :: tail ∧ opener.kind = .punctuation ∧ opener.text = "(" ∧
      opener.awaits = some ")" := by
  obtain ⟨plain, -, role⟩ := call
  obtain ⟨opener, tail, rfl, text⟩ := exists_of_opens (mem_names_of_roleOf role).2
  have punctuation := lexed.named [] t opener tail rfl plain text
  exact ⟨opener, tail, rfl, punctuation, text,
    by simp [Token.awaits, punctuation, text, Token.closerOf]⟩

/-- In a strictly balanced script the list of each call ends where it is closed. -/
theorem listsEnd_of_balanced (lexed : Lexed tokens) (balanced : Balanced true tokens) :
    ListsEnd source names s previous tokens := by
  intro v member call
  obtain ⟨before, split⟩ := suffix_of_mem_visits member
  obtain ⟨opener, tail, rest, opening, round, awaits⟩ :=
    opener_of_meetsCall (lexed.of_suffix (suffix_of_mem_visits member)) call
  have whole : tokens = (before ++ [v.token]) ++ opener :: tail := by simp [← split, rest]
  obtain ⟨inside, close, later, rfl, within, ends, text, kind⟩ :=
    balanced.exists_closer whole awaits
  have proper : ∀ t ∈ inside, t.IsProper := fun t member =>
    lexed.proper t (by rw [whole]; simp [member])
  have matching : Token.closerOf opener.text = some close.text := by
    rw [round, text]
    decide
  obtain ⟨notOpens, closes, -⟩ := closes_of_matching ((kind rfl).trans opening) matching
  refine ⟨inside, close, ?_, within.loosen, text⟩
  rw [rest, List.tail_cons, within.takeClosed_append proper, takeClosed_end _ notOpens closes]
  simp

theorem splitArguments_error {depth : Nat} {group : List Token} {d : Defect}
    (failed : splitArguments source depth group tokens = .error d) :
    d.cause = .emptyArgument := by
  fun_induction splitArguments source depth group tokens with
  | case1 => cases failed
  | case2 => cases failed
  | case3 =>
    cases failed
    rfl
  | case4 depth group t r deeper comma first more spelled =>
    rename_i ih
    cases split : splitArguments source 0 [] r with
    | error d' =>
      rw [split] at failed
      cases failed
      exact ih split
    | ok arguments =>
      rw [split] at failed
      cases failed
  | case5 =>
    rename_i ih
    exact ih failed

theorem callAt_error {d : Defect} (failed : callAt source t rest = .error d) :
    d.cause = .emptyArgument ∨ d.cause.isUnbalanced = true := by
  unfold callAt at failed
  split at failed
  · cases failed
    exact Or.inr rfl
  · split at failed
    · cases failed
      exact Or.inr rfl
    · split at failed
      · next split =>
        cases failed
        exact Or.inl (splitArguments_error split)
      · cases failed

/-- A call whose list ends fails for an empty argument only. -/
theorem callAt_of_takeClosed {opener close : Token} {tail inside : List Token}
    (found : takeClosed 0 tail = some (inside, close)) :
    (∃ d, callAt source t (opener :: tail) = .error d ∧ d.cause = .emptyArgument) ∨
      ∃ call, callAt source t (opener :: tail) = .ok (call, inside.length + 2) := by
  unfold callAt
  dsimp only
  rw [found]
  dsimp only
  cases split : splitArguments source 0 [] inside with
  | error d => exact Or.inl ⟨d, rfl, splitArguments_error split⟩
  | ok arguments => exact Or.inr ⟨_, rfl⟩

/-! ## Runs -/

/-- A call whose list ends where it is closed changes nothing of what is awaited, unless it fails
for an empty argument. -/
theorem step_listed (lexed : Lexed (t :: rest)) (call : s.MeetsCall names previous t rest.head?)
    (ends : EndsList rest) :
    (∃ d, s.step source names previous t rest = .error d ∧ d.cause = .emptyArgument) ∨
      ∃ s' taken, s.step source names previous t rest = .ok (s', taken) ∧
        shiftAll s'.awaited (rest.drop taken) = shiftAll s.awaited (t :: rest) := by
  have stepped := @step_call source names s previous t rest call
  obtain ⟨opener, tail, rfl, -, -, awaits⟩ := opener_of_meetsCall lexed call
  obtain ⟨inside, close, found, within, text⟩ := ends
  rw [List.tail_cons] at found
  obtain ⟨closes, later, rfl⟩ := takeClosed_eq_some found
  rcases @callAt_of_takeClosed source t opener close _ inside found with
    ⟨d, failed, cause⟩ | ⟨c, taken⟩
  · rw [failed] at stepped
    exact Or.inl ⟨d, stepped, cause⟩
  · rw [taken] at stepped
    obtain ⟨s', step, awaited⟩ := stepped
    refine Or.inr ⟨s', _, step, ?_⟩
    have closing := lexed.proper close (by simp) (Or.inr closes)
    have last : close.ends = true := by
      simp [Token.ends, closing, (Bool.and_eq_true_iff.1 closes).2]
    obtain ⟨opens, notEnds⟩ : t.awaits = none ∧ t.ends = false := by
      simp [Token.awaits, Token.ends, call.1]
    have past : (opener :: (inside ++ close :: later)).drop (inside.length + 2) = later := by
      simp [List.drop_append, List.drop_eq_nil_of_le]
    rw [past, awaited, shiftAll, shift_plain opens notEnds, Option.bind_some, shiftAll,
      shift_opener awaits, Option.bind_some, within.shiftAll_append, shiftAll, ← text,
      shift_closer last]
    rfl

/-- Behind a token the pass goes on as the reader does, or both fail at it, unless an argument is
empty. -/
theorem step_follows (lexed : Lexed (t :: rest))
    (ends : ListsEnd source names s previous (t :: rest)) :
    (∃ d, s.step source names previous t rest = .error d ∧
        (names ≠ [] ∧ d.cause = .emptyArgument ∨ shiftAll s.awaited (t :: rest) = none)) ∨
      ∃ s' taken, s.step source names previous t rest = .ok (s', taken) ∧
        shiftAll s'.awaited (rest.drop taken) = shiftAll s.awaited (t :: rest) := by
  by_cases call : s.MeetsCall names previous t rest.head?
  · have reported : names ≠ [] := by
      rintro rfl
      exact not_meetsCall_nil s previous t _ call
    rcases step_listed lexed call (ends.first call) with ⟨d, failed, cause⟩ | found
    · exact Or.inl ⟨d, failed, Or.inl ⟨reported, cause⟩⟩
    · exact Or.inr found
  · obtain ⟨outcome, step, agrees⟩ := @step_agrees source names s previous t rest
      (lexed.proper t List.mem_cons_self) call
    rw [step]
    cases shifted : shift s.awaited t with
    | some after =>
      rw [shifted] at agrees
      obtain ⟨s', rfl, awaited⟩ := agrees
      refine Or.inr ⟨s', 0, rfl, ?_⟩
      rw [awaited, shiftAll, shifted]
      rfl
    | none =>
      rw [shifted] at agrees
      obtain ⟨d, rfl, -⟩ := agrees
      exact Or.inl ⟨d, rfl, Or.inr (by rw [shiftAll, shifted]; rfl)⟩

/-- A run comes to its end just when the reader accepts, unless an argument is empty. -/
theorem run_follows (lexed : Lexed tokens) (ends : ListsEnd source names s previous tokens) :
    (∃ d, s.run source names previous tokens = .error d ∧
        (names ≠ [] ∧ d.cause = .emptyArgument ∨ shiftAll s.awaited tokens ≠ some [])) ∨
      (∃ f, s.run source names previous tokens = .ok f) ∧ shiftAll s.awaited tokens = some [] := by
  fun_induction State.run source names s previous tokens with
  | case1 s previous closed =>
    refine Or.inr ⟨⟨s, rfl⟩, ?_⟩
    rw [State.awaited, closed]
    rfl
  | case2 s previous opener scope outer found =>
    refine Or.inl ⟨_, rfl, Or.inr ?_⟩
    rw [State.awaited, found]
    simp [shiftAll, awaitedFrom]
  | case3 s previous t rest d failed =>
    rcases step_follows lexed ends with ⟨d', failed', cause⟩ | ⟨s', taken, step, -⟩
    · cases failed.symm.trans failed'
      exact Or.inl ⟨d, rfl, cause.imp_right fun none => by simp [none]⟩
    · cases failed.symm.trans step
  | case4 s previous t rest s' taken step ih =>
    rcases step_follows lexed ends with ⟨d, failed, -⟩ | ⟨u, n, step', same⟩
    · cases step.symm.trans failed
    · cases step.symm.trans step'
      rw [← same]
      exact ih ((lexed.of_suffix (List.suffix_cons t rest)).of_suffix (List.drop_suffix taken rest))
        (ends.later step)

theorem run_error {d : Defect} (lexed : Lexed tokens)
    (failed : s.run source names previous tokens = .error d) :
    d.cause = .emptyArgument ∨ d.cause.isUnbalanced = true := by
  fun_induction State.run source names s previous tokens with
  | case1 => cases failed
  | case2 =>
    cases failed
    exact Or.inr rfl
  | case3 s previous t rest d' step =>
    cases failed
    by_cases call : s.MeetsCall names previous t rest.head?
    · have stepped := @step_call source names s previous t rest call
      cases found : callAt source t rest with
      | error d' =>
        rw [found] at stepped
        cases step.symm.trans stepped
        exact callAt_error found
      | ok found' =>
        rw [found] at stepped
        obtain ⟨s', step', -⟩ := stepped
        cases step.symm.trans step'
    · obtain ⟨outcome, step', agrees⟩ := @step_agrees source names s previous t rest
        (lexed.proper t List.mem_cons_self) call
      rw [step] at step'
      cases shifted : shift s.awaited t with
      | some after =>
        rw [shifted] at agrees
        obtain ⟨s', rfl, -⟩ := agrees
        cases step'
      | none =>
        rw [shifted] at agrees
        obtain ⟨d', rfl, cause⟩ := agrees
        cases step'
        exact Or.inr cause
  | case4 s previous t rest s' taken step ih =>
    exact ih ((lexed.of_suffix (List.suffix_cons t rest)).of_suffix (List.drop_suffix taken rest))
      failed

end List

/-! ## Scripts -/

instance (tokens : List Token) : Decidable (Balanced false tokens) :=
  decidable_of_iff _ balanced_iff.symm

theorem scanFrom_error {mode : Mode} {previous : Option Char} {offset : Nat} {s : List Char}
    {d : Defect} (failed : scanFrom mode previous offset s = .error d) :
    ∃ c, d.cause = .unexpectedCharacter c := by
  fun_induction scanFrom mode previous offset s with
  | case1 => cases failed
  | case2 mode previous offset c r nothing =>
    cases failed
    exact ⟨c, rfl⟩
  | case3 mode previous offset c r found shaped text d' later ih =>
    cases failed
    exact ih later
  | case4 => cases failed

theorem parse_of_scan {names : List String} {source : List Char} {tokens : List Token}
    (scanned : scan source = .ok tokens) : parse names source =
      match State.initial.run source names none (significant tokens) with
      | .error d => .error d
      | .ok s => .ok ⟨source, s.references.reverse, s.calls.reverse⟩ := by
  cases ran : State.initial.run source names none (significant tokens) <;>
    simp only [parse, scanned, ran]

/-- A script whose lists of arguments end where they are closed is accepted just when it is balanced,
unless an argument is empty. -/
theorem parse_follows {names : List String} {source : List Char} {tokens : List Token}
    (scanned : scan source = .ok tokens)
    (ends : ListsEnd source names .initial none (significant tokens)) :
    (∃ d, parse names source = .error d ∧
        (names ≠ [] ∧ d.cause = .emptyArgument ∨ ¬ Balanced false (significant tokens))) ∨
      (∃ tree, parse names source = .ok tree) ∧ Balanced false (significant tokens) := by
  rw [balanced_iff, parse_of_scan scanned]
  rcases run_follows (lexed_of_scan scanned) ends with ⟨d, failed, cause⟩ | ⟨⟨f, ran⟩, accepted⟩
  · rw [failed]
    exact Or.inl ⟨d, rfl, cause⟩
  · rw [ran]
    exact Or.inr ⟨⟨_, rfl⟩, accepted⟩

theorem parse_error {names : List String} {source : List Char} {d : Defect}
    (failed : parse names source = .error d) :
    (scan source = .error d ∧ ∃ c, d.cause = .unexpectedCharacter c) ∨
      d.cause = .emptyArgument ∨ d.cause.isUnbalanced = true := by
  cases scanned : scan source with
  | error d' =>
    rw [parse, scanned] at failed
    cases failed
    exact Or.inl ⟨rfl, scanFrom_error scanned⟩
  | ok tokens =>
    rw [parse_of_scan scanned] at failed
    cases ran : State.initial.run source names none (significant tokens) with
    | error d' =>
      rw [ran] at failed
      cases failed
      exact Or.inr (run_error (lexed_of_scan scanned) ran)
    | ok f =>
      rw [ran] at failed
      cases failed

/-- A script fails for a character, a bracket or an empty argument. One that can be read is accepted
without reported calls just when it is balanced. With reported calls an accepted one is balanced, and
a balanced one is accepted unless an argument is empty, where the list of each call ends where it is
closed; in a strictly balanced script it does. -/
theorem parse_balanced (names : List String) (source : List Char) :
    (∀ d, parse names source = .error d →
      (scan source = .error d ∧ ∃ c, d.cause = .unexpectedCharacter c) ∨
        d.cause = .emptyArgument ∨ d.cause.isUnbalanced = true) ∧
    (∀ d, scan source = .error d → parse names source = .error d) ∧
    ∀ tokens, scan source = .ok tokens →
      ((∃ tree, parse [] source = .ok tree) ↔ Balanced false (significant tokens)) ∧
      (ListsEnd source names .initial none (significant tokens) →
        ((∃ tree, parse names source = .ok tree) → Balanced false (significant tokens)) ∧
        (Balanced false (significant tokens) → (∃ tree, parse names source = .ok tree) ∨
          ∃ d, parse names source = .error d ∧ d.cause = .emptyArgument)) ∧
      (Balanced true (significant tokens) →
        ListsEnd source names .initial none (significant tokens)) := by
  refine ⟨fun d => parse_error, fun d failed => by rw [parse, failed], fun tokens scanned => ?_⟩
  have uncalled : ListsEnd source [] .initial none (significant tokens) := fun v member call =>
    absurd call (not_meetsCall_nil v.state v.previous v.token _)
  refine ⟨⟨?_, ?_⟩, fun ends => ⟨?_, ?_⟩, listsEnd_of_balanced (lexed_of_scan scanned)⟩
  · rintro ⟨tree, parsed⟩
    rcases parse_follows scanned uncalled with ⟨d, failed, -⟩ | ⟨-, balanced⟩
    · cases parsed.symm.trans failed
    · exact balanced
  · intro balanced
    rcases parse_follows scanned uncalled with ⟨d, -, ⟨called, -⟩ | unbalanced⟩ | ⟨accepted, -⟩
    · exact absurd rfl called
    · exact absurd balanced unbalanced
    · exact accepted
  · rintro ⟨tree, parsed⟩
    rcases parse_follows scanned ends with ⟨d, failed, -⟩ | ⟨-, balanced⟩
    · cases parsed.symm.trans failed
    · exact balanced
  · intro balanced
    rcases parse_follows scanned ends with ⟨d, failed, cause⟩ | ⟨accepted, -⟩
    · exact Or.inr ⟨d, failed, (cause.resolve_right fun other => other balanced).2⟩
    · exact Or.inl accepted

/-- The brackets of a call with an array in its list are strictly balanced, so it is accepted. -/
theorem parse_balanced_of_array :
    ∃ tokens, scan "f([a])".toList = .ok tokens ∧ Balanced true (significant tokens) ∧
      ((∃ tree, parse ["f"] "f([a])".toList = .ok tree) ∨
        ∃ d, parse ["f"] "f([a])".toList = .error d ∧ d.cause = .emptyArgument) := by
  let round : Token := ⟨.punctuation, "(", 1, false⟩
  let square : Token := ⟨.punctuation, "[", 2, false⟩
  let square' : Token := ⟨.punctuation, "]", 4, false⟩
  let round' : Token := ⟨.punctuation, ")", 5, false⟩
  let tokens : List Token :=
    [⟨.plainName, "f", 0, false⟩, round, square, ⟨.plainName, "a", 3, false⟩, square', round']
  have scanned : scan "f([a])".toList = .ok tokens := by decide +kernel
  have array : Balanced true [square, ⟨.plainName, "a", 3, false⟩, square'] :=
    .around square square' (by decide) (by decide) (fun _ => rfl)
      (.plain _ (by decide) (by decide) .nil) .nil
  have balanced : Balanced true (significant tokens) :=
    .plain _ (by decide) (by decide)
      (.around round round' (by decide) (by decide) (fun _ => rfl) array .nil)
  obtain ⟨-, -, agrees⟩ := parse_balanced ["f"] "f([a])".toList
  obtain ⟨-, listed, ends⟩ := agrees tokens scanned
  exact ⟨tokens, scanned, balanced, (listed (ends balanced)).2 balanced.loosen⟩

/-- In the list of a reported call the count of brackets takes a square one for a round one: the
script is accepted, though it is not balanced and is rejected without reported calls. The count takes
no notice of a mark that closes a brace, and so goes on to a later brace: that script is rejected,
though it is balanced. -/
theorem parse_balanced_fails :
    (∃ tree, parse ["f"] "f((])".toList = .ok tree) ∧
    (∃ tokens, scan "f((])".toList = .ok tokens ∧ ¬ Balanced false (significant tokens)) ∧
    parse [] "f((])".toList = .error ⟨.mismatched ")" "(" "]", 3⟩ ∧
    parse ["f"] "`$\x7bf(\x7b\x7d`)\x7d".toList = .error ⟨.unclosed "$\x7b", 1⟩ ∧
    ∃ tokens, scan "`$\x7bf(\x7b\x7d`)\x7d".toList = .ok tokens ∧
      Balanced false (significant tokens) := by
  let call : Call := ⟨⟨"f", 0, false⟩, 5, [⟨2, 4, "(]", none⟩]⟩
  let tokens : List Token :=
    [⟨.plainName, "f", 0, false⟩, ⟨.punctuation, "(", 1, false⟩, ⟨.punctuation, "(", 2, false⟩,
      ⟨.punctuation, "]", 3, false⟩, ⟨.punctuation, ")", 4, false⟩]
  let tokens' : List Token :=
    [⟨.templateText, "`", 0, false⟩, ⟨.substitution, "$\x7b", 1, false⟩,
      ⟨.plainName, "f", 3, false⟩, ⟨.punctuation, "(", 4, false⟩, ⟨.punctuation, "\x7b", 5, false⟩,
      ⟨.substitution, "\x7d", 6, false⟩, ⟨.templateText, "`", 7, false⟩,
      ⟨.punctuation, ")", 8, false⟩, ⟨.punctuation, "\x7d", 9, false⟩]
  have parsed : parse ["f"] "f((])".toList = .ok ⟨"f((])".toList, [], [call]⟩ := by decide +kernel
  have scanned : scan "f((])".toList = .ok tokens := by decide +kernel
  have scanned' : scan "`$\x7bf(\x7b\x7d`)\x7d".toList = .ok tokens' := by decide +kernel
  exact ⟨⟨_, parsed⟩, ⟨tokens, scanned, by decide⟩, by decide +kernel, by decide +kernel,
    tokens', scanned', by decide⟩

end Script

end Folio
