import Folio.Proofs.Script.Weave
import Mathlib.Data.List.Infix

/-!
# Invocations that survive an injection

The invocations in an injected script are, one for one and in the same order, those of the source
about which the pass is silent (`Rewritten.moved`). So a call survives if and only if the pass
overlooks it (`injectWith_survivors`).
-/

namespace Folio.Script

open Text

/-- Whether a spot of an injected script is one of the source that moved. -/
structure Moved (v : Visit) (p : Spot) : Prop where
  text : p.token.text = v.token.text
  member : p.isMember = v.isMember
  declared : p.isDeclared = v.isDeclared

/-- Whether a spot that was visited in the source names a member, a declared function or a method. -/
def Named (v : Visit) (p : Spot) : Prop :=
  p.isMember = true ∨ p.isDeclared = true ∨ v.isMethod = true

theorem Moved.named_iff {v : Visit} {p : Spot} (moved : Moved v p) :
    Named v p ↔ v.isName = true := by
  rw [Named, moved.member, moved.declared, Visit.isName, Bool.or_eq_true, Bool.or_eq_true, or_assoc]

theorem forall₂_named_iff {visits : List Visit} {spots : List Spot}
    (moved : List.Forall₂ Moved visits spots) :
    List.Forall₂ Named visits spots ↔ ∀ v ∈ visits, v.isName = true := by
  induction moved with
  | nil => simp
  | cons head tail ih => rw [List.forall₂_cons, List.forall_mem_cons, head.named_iff, ih]

/-! ## Spots of rewritten tokens -/

theorem isMember_eq {t t' : Token} (kind : t'.kind = t.kind) (text : t'.text = t.text) :
    isMember (some t') = isMember (some t) := by
  simp only [isMember, punctuationIs, Token.isPunctuation, Option.any_some, kind, text]

theorem declaresFunction_eq {t t' : Token} (kind : t'.kind = t.kind) (text : t'.text = t.text) :
    declaresFunction (some t') = declaresFunction (some t) := by
  simp only [declaresFunction, Option.any_some, kind, text]

/-- Whether a name after a token is neither a member nor a declared function. -/
def Plain (t : Token) : Prop :=
  isMember (some t) = false ∧ declaresFunction (some t) = false

theorem plain_of_kind {t : Token} (kind : t.kind ≠ .punctuation ∧ t.kind ≠ .declaration) :
    Plain t := by
  simp [Plain, isMember, punctuationIs, Token.isPunctuation, declaresFunction, kind]

theorem plain_of_closes {t : Token} (closes : t.closes = true) : Plain t := by
  have closer := (Bool.and_eq_true_iff.1 closes).2
  have dot : t.text ≠ "." := fun same => by simp [same, Token.isCloserText] at closer
  have word : t.text ≠ "function" := fun same => by simp [same, Token.isCloserText] at closer
  simp [Plain, isMember, punctuationIs, Token.isPunctuation, declaresFunction, dot, word]

theorem filter_spots_of_kind {t : Token} (kind : t.kind ≠ .plainName) (previous : Option Token)
    (tokens : List Token) : (spots previous (t :: tokens)).filter Spot.invokes =
      (spots (some t) tokens).filter Spot.invokes :=
  List.filter_cons_of_neg fun invokes => kind (Spot.invokes_iff.1 invokes).1

/-- Between the brackets of a call is no invocation. -/
theorem filter_spots_of_closes {inside : List Token} (kinds : ∀ u ∈ inside, u.kind ≠ .plainName)
    {close : Token} (closes : close.closes = true) (previous : Option Token)
    (tokens : List Token) : (spots previous (inside ++ close :: tokens)).filter Spot.invokes =
      (spots (some close) tokens).filter Spot.invokes := by
  induction inside generalizing previous with
  | nil =>
    refine List.filter_cons_of_neg fun invokes => ?_
    obtain ⟨-, named, -⟩ := Spot.invokes_iff.1 invokes
    have helpers : ∀ name ∈ helperNames, Token.isCloserText name = false := by decide
    rw [Token.closes, helpers _ named, Bool.and_false] at closes
    cases closes
  | cons t inside ih =>
    obtain ⟨kind, kinds⟩ := List.forall_mem_cons.1 kinds
    exact (filter_spots_of_kind kind previous _).trans (ih kinds (some t))

section Rewritten

variable {Site : Token → List Token → Nat → Prop} {Gone : Reference → Prop}
  {tokens tokens' : List Token}

theorem Token.IsQuote.ne_plainName {t : Token} (quoted : t.IsQuote) : t.kind ≠ .plainName := by
  simp [quoted.1]

theorem Token.IsQuote.plain {t : Token} (quoted : t.IsQuote) : Plain t :=
  plain_of_kind (by simp [quoted.1])

theorem Token.IsQuote.ne_opener {t : Token} (quoted : t.IsQuote) : t.text ≠ "(" := by
  obtain ⟨-, text, spelled⟩ := quoted
  intro opener
  have chars := congrArg String.toList (spelled.symm.trans opener)
  rw [quote_eq, String.toList_ofList] at chars
  cases chars

theorem Rewritten.opens_eq (rewritten : Rewritten Site Gone tokens tokens') :
    textIs "(" tokens'.head? = textIs "(" tokens.head? := by
  have named {t t' : Token} (simple : isSimpleName t.text = true) (quoted : t'.IsQuote) :
      (t'.text == "(") = (t.text == "(") := by
    have ne : t.text ≠ "(" := by
      intro opener
      rw [opener] at simple
      exact absurd simple (by decide)
    rw [beq_false_of_ne quoted.ne_opener, beq_false_of_ne ne]
  cases rewritten with
  | done => rfl
  | kept t t' again near stays site later => exact congrArg (· == "(") again.text
  | literal t t' plain simple uncalled quoted broken gone site later => exact named simple quoted
  | labelled t t' colon t'' plain again uncalled mark other quoted unbroken gone site later =>
    exact congrArg (· == "(") again.text
  | call t close t' plain simple kinds closes quoted broken site later => exact named simple quoted

end Rewritten

section Moved

variable {source : List Char} {Gone : Reference → Prop} {whole tokens tokens' : List Token}
  {s s' : State} {previous : Option Token} {t : Token} {rest : List Token} {taken : Nat}

/-- The pass takes no further tokens at an invocation about which it is silent. -/
theorem isSilent_iff (invokes : (Spot.mk previous t rest).invokes = true)
    (step : s.step source helperNames previous t rest = .ok (s', taken)) :
    (Visit.mk ⟨previous, t, rest⟩ s).isSilent = true ↔ taken = 0 := by
  rcases effect_of_invokes (v := ⟨⟨previous, t, rest⟩, s⟩) invokes step with
    ⟨silent, none⟩ | ⟨heard, call, found, -⟩
  · exact iff_of_true silent none
  · obtain ⟨_, inside, _, _, _, _, rfl, -⟩ := callAt_eq_ok found
    exact iff_of_false (by simp [heard]) (Nat.succ_ne_zero _)

theorem invokes_eq_false_of_uncalled
    (uncalled : t.text ∈ helperNames → textIs "(" rest.head? = false) :
    (Spot.mk previous t rest).invokes = false := by
  refine Bool.eq_false_iff.2 fun invokes => ?_
  obtain ⟨-, named, opens⟩ := Spot.invokes_iff.1 invokes
  rw [uncalled named] at opens
  cases opens

/-- The invocations of rewritten tokens are those about which the pass is silent. -/
theorem Rewritten.moved
    (rewritten : Rewritten (Visited source helperNames whole) Gone tokens tokens')
    {previous previous' : Option Token}
    (reaches : Reaches source helperNames whole s previous tokens)
    (member : isMember previous' = isMember previous)
    (declared : declaresFunction previous' = declaresFunction previous) :
    ((s.visits source helperNames previous tokens).filter (·.invokes)).map Visit.toSpot =
        (spots previous tokens).filter Spot.invokes ∧
      List.Forall₂ Moved
        ((s.visits source helperNames previous tokens).filter fun v => v.invokes && v.isSilent)
        ((spots previous' tokens').filter Spot.invokes) := by
  induction rewritten generalizing s previous previous' with
  | done =>
    rw [State.visits, spots, spots]
    exact ⟨rfl, .nil⟩
  | @kept tokens tokens' t t' again near stays site later ih =>
    obtain ⟨kind, text, -⟩ := again
    obtain ⟨s₂, previous₂, s', reaches₂, step⟩ := site
    obtain ⟨rfl, rfl⟩ := reaches.unique reaches₂
    have next : Reaches source helperNames whole s' (some t) tokens := reaches.step step
    obtain ⟨seen, moved⟩ := ih next (isMember_eq kind text) (declaresFunction_eq kind text)
    have same : (Spot.mk previous' t' tokens').invokes = (Spot.mk previous t tokens).invokes := by
      simp only [Spot.invokes, kind, text, later.opens_eq]
    rw [visits_cons step, spots, spots]
    cases invokes : (Spot.mk previous t tokens).invokes with
    | false =>
      simp only [List.filter_cons, invokes, same, Bool.false_and, Bool.false_eq_true, if_false]
      exact ⟨seen, moved⟩
    | true =>
      have silent := (isSilent_iff invokes step).2 rfl
      simp only [List.filter_cons, invokes, same, silent, Bool.and_self, if_true, List.map_cons]
      exact ⟨congrArg (_ :: ·) seen, .cons ⟨text, member, declared⟩ moved⟩
  | @literal tokens tokens' t t' plain simple uncalled quoted broken gone site later ih =>
    obtain ⟨s₂, previous₂, s', reaches₂, step⟩ := site
    obtain ⟨rfl, rfl⟩ := reaches.unique reaches₂
    have next : Reaches source helperNames whole s' (some t) tokens := reaches.step step
    have old : Plain t := plain_of_kind (by simp [plain])
    have new : Plain t' := quoted.plain
    have quiet : (Spot.mk previous t tokens).invokes = false :=
      invokes_eq_false_of_uncalled uncalled
    rw [visits_cons step, filter_spots_of_kind quoted.ne_plainName, spots]
    simp only [List.filter_cons, quiet, Bool.false_and, Bool.false_eq_true, if_false]
    exact ih next (new.1.trans old.1.symm) (new.2.trans old.2.symm)
  | @labelled tokens tokens' t t' colon t'' plain again uncalled mark other quoted unbroken gone site
      later ih =>
    obtain ⟨s₂, previous₂, s', reaches₂, step⟩ := site
    obtain ⟨rfl, rfl⟩ := reaches.unique reaches₂
    have next : Reaches source helperNames whole s' (some t) tokens := reaches.step step
    have old : Plain t := plain_of_kind (by simp [plain])
    have new : Plain t'' := quoted.plain
    have quiet : (Spot.mk previous t tokens).invokes = false :=
      invokes_eq_false_of_uncalled uncalled
    have quiet' : (Spot.mk previous' t' (colon :: t'' :: tokens')).invokes = false :=
      invokes_eq_false_of_uncalled fun _ => by simp [textIs, mark]
    have noName : colon.kind ≠ .plainName := by simp [other]
    rw [visits_cons step, spots, spots]
    simp only [List.filter_cons, quiet, quiet', Bool.false_and, Bool.false_eq_true, if_false]
    rw [filter_spots_of_kind noName, filter_spots_of_kind quoted.ne_plainName]
    exact ih next (new.1.trans old.1.symm) (new.2.trans old.2.symm)
  | @call tokens tokens' inside t close t' plain simple kinds closes quoted broken site later ih =>
    obtain ⟨s₂, previous₂, s', reaches₂, step⟩ := site
    obtain ⟨rfl, rfl⟩ := reaches.unique reaches₂
    have last : (t :: (inside ++ close :: tokens))[inside.length + 1]? = some close := by simp
    have rest : (inside ++ close :: tokens).drop (inside.length + 1) = tokens := by
      simp [List.drop_append]
    have next : Reaches source helperNames whole s' (some close) tokens := by
      have reached := reaches.step step
      rwa [last, rest] at reached
    have old : Plain close := plain_of_closes closes
    have new : Plain t' := quoted.plain
    obtain ⟨seen, moved⟩ := ih next (new.1.trans old.1.symm) (new.2.trans old.2.symm)
    rw [visits_cons step, filter_spots_of_kind quoted.ne_plainName, spots, last, rest]
    cases invokes : (Spot.mk previous t (inside ++ close :: tokens)).invokes with
    | false =>
      simp only [List.filter_cons, invokes, Bool.false_and, Bool.false_eq_true, if_false]
      rw [filter_spots_of_closes kinds closes]
      exact ⟨seen, moved⟩
    | true =>
      have heard : (Visit.mk ⟨previous, t, inside ++ close :: tokens⟩ s).isSilent = false :=
        Bool.eq_false_iff.2 fun silent => Nat.succ_ne_zero _ ((isSilent_iff invokes step).1 silent)
      simp only [List.filter_cons, invokes, heard, Bool.and_false, Bool.false_eq_true, if_false,
        if_true, List.map_cons]
      rw [filter_spots_of_closes kinds closes]
      exact ⟨congrArg (_ :: ·) seen, moved⟩

end Moved

/-! ## Injections -/

/-- The visits of the pass over a script with certain tokens. -/
def visits (source : List Char) (tokens : List Token) : List Visit :=
  State.initial.visits source helperNames none (significant tokens)

/-- The visits of the invocations about which the pass is silent. -/
def survivors (source : List Char) (tokens : List Token) : List Visit :=
  (visits source tokens).filter fun v => v.invokes && v.isSilent

theorem forall_survivors_iff {source : List Char} {tokens : List Token} :
    (∀ v ∈ survivors source tokens, v.isName = true) ↔
      ∀ v ∈ visits source tokens, v.invokes = true → v.isOverlooked = false := by
  simp only [survivors, List.mem_filter, Bool.and_eq_true, Visit.isOverlooked]
  constructor
  · intro names v visited invokes
    cases silent : v.isSilent with
    | false => rfl
    | true => simp [names v ⟨visited, invokes, silent⟩]
  · rintro heard v ⟨visited, invokes, silent⟩
    have name := heard v visited invokes
    rw [silent] at name
    simpa using name

theorem bind_ok {ε α β : Type} {x : Except ε α} {f : α → Except ε β} {b : β}
    (bound : x >>= f = .ok b) : ∃ a, x = .ok a ∧ f a = .ok b := by
  cases x with
  | error problem => cases bound
  | ok a => exact ⟨a, rfl, bound⟩

/-- Questions to a state that may fail are all answered, or there is no answer at all. -/
theorem length_of_mapM {α β σ ε : Type} {ask : α → StateT σ (Except ε) β} {questions : List α}
    {answers : List β} {st st' : σ} (ran : (questions.mapM ask).run st = .ok (answers, st')) :
    answers.length = questions.length := by
  induction questions generalizing answers st with
  | nil =>
    rw [List.mapM_nil] at ran
    cases ran
    rfl
  | cons question questions ih =>
    rw [List.mapM_cons, StateT.run_bind] at ran
    obtain ⟨⟨answer, later⟩, asked, ran⟩ := bind_ok ran
    rw [StateT.run_bind] at ran
    obtain ⟨⟨others, last⟩, askedRest, ran⟩ := bind_ok ran
    cases ran
    exact congrArg Nat.succ (ih askedRest)

/-- Whether a reference of a script has a route. -/
def Tree.Routed (tree : Tree) (routes : List (String × String)) (r : Reference) : Prop :=
  r ∈ tree.references ∧ (routes.lookup r.name).isSome = true

/-- What the lexer finds in a spliced script. -/
theorem scan_of_spliced {routes : List (String × String)} {source output : List Char}
    {tokens : List Token} {tree : Tree} {answers : List String}
    (scanned : scan source = .ok tokens) (closed : Sealed tokens)
    (parsed : parse helperNames source = .ok tree)
    (proper : ∀ c ∈ tree.calls, c.isProper = true)
    (enough : answers.length = tree.calls.length)
    (spliced : Spliced 0 (answered routes tree.walk answers) source output) :
    ∃ tokens', scan output = .ok tokens' ∧
      Rewritten (Visited source helperNames (significant tokens)) (tree.Routed routes)
        (significant tokens) (significant tokens') := by
  obtain ⟨-, calls, references, -, tokens₂, scanned₂, placed⟩ := parse_placed parsed
  cases Except.ok.inj (scanned.symm.trans scanned₂)
  have routed (r : Reference) : tree.Routed routes r ↔
      Node.reference r ∈ tree.walk ∧ (routes.lookup r.name).isSome = true := by
    rw [Tree.Routed, ← references, Node.mem_references]
  have woven := woven_of_spliced (scan_covers scanned) placed spliced (calls ▸ enough)
    (calls ▸ proper) (kind_of_opener scanned) fun r _ => routed r
  obtain ⟨tokens', scanned', -, rewritten⟩ := woven.scan scanned (.refl _ _ _) closed 0
  exact ⟨tokens', scanned', rewritten⟩

/-- A call at an invocation is reported unless the pass is silent there, and the first one that is
misused is the fault of the injection. If there is none, the invocations in the output are those of
the source about which the pass is silent, in the same order; all of them are names if and only if
the pass overlooks no call. -/
theorem injectWith_survivors {σ ε : Type} (routes : List (String × String))
    (ask : Request → StateT σ (Except ε) String) {source : String} {tokens : List Token}
    {tree : Tree} (scanned : scan source.toList = .ok tokens) (closed : Sealed tokens)
    (parsed : parse helperNames source.toList = .ok tree) {st st' : σ}
    {result : Except Defect String}
    (ran : (injectWith routes ask source).run.run st = .ok (result, st')) :
    (∀ v ∈ visits source.toList tokens, v.invokes = true → v.isSilent = false →
      ∃ call taken, callAt source.toList v.token v.rest = .ok (call, taken) ∧
        call ∈ tree.calls) ∧
    match tree.calls.find? (!·.isProper) with
    | some c => ∃ cause, cause.isMisuse = true ∧ result = .error ⟨cause, c.start⟩
    | none =>
      ((visits source.toList tokens).filter (·.invokes)).map Visit.toSpot =
          invocations (significant tokens) ∧
        ∃ output tokens', result = .ok output ∧ scan output.toList = .ok tokens' ∧
          List.Forall₂ Moved (survivors source.toList tokens)
            (invocations (significant tokens')) ∧
          (List.Forall₂ Named (survivors source.toList tokens)
              (invocations (significant tokens')) ↔
            ∀ v ∈ visits source.toList tokens, v.invokes = true → v.isOverlooked = false) := by
  have reported : ∀ v ∈ visits source.toList tokens, v.invokes = true → v.isSilent = false →
      ∃ call taken, callAt source.toList v.token v.rest = .ok (call, taken) ∧
        call ∈ tree.calls := by
    intro v visited invokes heard
    unfold parse at parsed
    rw [scanned] at parsed
    dsimp only at parsed
    split at parsed
    · cases parsed
    · next f reached =>
      cases parsed
      obtain ⟨call, taken, found, member⟩ := callAt_of_mem_visits reached visited invokes heard
      exact ⟨call, taken, found, List.mem_reverse.2 member⟩
  refine ⟨reported, ?_⟩
  obtain ⟨-, -, outcome, asks, outcomes⟩ := injectWith_spliced routes ask parsed
  rw [asks, StateT.run_bind] at ran
  obtain ⟨⟨answers, st₂⟩, answered, ran⟩ := bind_ok ran
  cases ran
  have done := outcomes answers (length_of_mapM answered)
  split
  · next c improper =>
    rw [improper] at done
    obtain ⟨cause, isMisuse, failed, -⟩ := done
    exact ⟨cause, isMisuse, failed⟩
  · next none =>
    rw [none] at done
    obtain ⟨all, output, succeeded, spliced⟩ := done
    have proper : ∀ c ∈ tree.calls, c.isProper = true := by
      simpa using List.find?_eq_none.1 none
    have enough : answers.length = tree.calls.length := by
      rw [length_of_mapM answered, all, List.length_map]
    obtain ⟨tokens', scanned', rewritten⟩ :=
      scan_of_spliced scanned closed parsed proper enough spliced
    obtain ⟨seen, moved⟩ :=
      rewritten.moved .start (rfl : isMember Option.none = isMember Option.none) rfl
    refine ⟨seen, String.ofList output, tokens', succeeded, ?_, moved, ?_⟩
    · rwa [String.toList_ofList]
    · exact (forall₂_named_iff moved).trans forall_survivors_iff

/-! ## A call that is heard and one that is not -/

theorem sealed_iff {tokens : List Token} : Sealed tokens ↔
    ∀ u ∈ tokens.tails, (u.head?.any fun t => t.kind == .operator || t.kind == .regex) = true →
      ¬ ['/', '*'] <+: spelling u := by
  simp only [List.mem_tails]
  constructor
  · intro closed u suffix marked
    cases u with
    | nil => cases marked
    | cons t rest => exact closed t rest suffix (by simpa using marked)
  · intro closed t rest suffix marked
    exact closed (t :: rest) suffix (by simpa using marked)

instance (tokens : List Token) : Decidable (Sealed tokens) :=
  decidable_of_iff _ sealed_iff.symm

/-- Answers a request with its name. -/
def Request.answer (request : Request) : StateT Unit (Except Empty) String :=
  return request.name

/-- A member that is called stays, and the call of a helper becomes a literal. -/
theorem injectWith_survivors_of_member : ∃ tokens output tokens',
    scan "x.asset_path(a); f(asset_path('b'));".toList = .ok tokens ∧
    (injectWith [] Request.answer "x.asset_path(a); f(asset_path('b'));").run.run () =
      .ok (.ok output, ()) ∧ scan output.toList = .ok tokens' ∧
    (survivors "x.asset_path(a); f(asset_path('b'));".toList tokens).map (·.token.start) = [2] ∧
    List.Forall₂ Named (survivors "x.asset_path(a); f(asset_path('b'));".toList tokens)
      (invocations (significant tokens')) := by
  have scanned : scan "x.asset_path(a); f(asset_path('b'));".toList =
      .ok ((scan "x.asset_path(a); f(asset_path('b'));".toList).toOption.getD []) := by
    decide +kernel
  have parsed : parse helperNames "x.asset_path(a); f(asset_path('b'));".toList =
      .ok ⟨"x.asset_path(a); f(asset_path('b'));".toList,
        [⟨"x", 0, false⟩, ⟨"a", 13, false⟩, ⟨"f", 17, false⟩],
        [⟨⟨"asset_path", 19, false⟩, 34, [⟨30, 33, "'b'", some "b"⟩]⟩]⟩ := by
    decide +kernel
  have ran := congrArg (·.run ()) (run_injectWith [] Request.answer parsed)
  obtain ⟨-, -, output, tokens', done, scanned', -, names⟩ :=
    injectWith_survivors [] Request.answer scanned (by decide +kernel) parsed ran
  refine ⟨_, output, tokens', scanned, ?_, scanned', by decide +kernel,
    names.2 (by decide +kernel)⟩
  rw [ran, ← done]
  rfl

/-- The default of a parameter is taken for a binding, and the call of a helper in it stays. -/
theorem injectWith_survivors_fails : ∃ tokens',
    (injectWith [] Request.answer "function f(a = asset_path()) {}").run.run () =
      .ok (.ok "function f(a = asset_path()) {}", ()) ∧
    scan "function f(a = asset_path()) {}".toList = .ok tokens' ∧
    (invocations (significant tokens')).map (fun p => (p.isMember, p.isDeclared, p.hasBody)) =
      [(false, false, false)] := by
  have scanned : scan "function f(a = asset_path()) {}".toList =
      .ok ((scan "function f(a = asset_path()) {}".toList).toOption.getD []) := by
    decide +kernel
  have parsed : parse helperNames "function f(a = asset_path()) {}".toList =
      .ok ⟨"function f(a = asset_path()) {}".toList, [], []⟩ := by
    decide +kernel
  have ran := congrArg (·.run ()) (run_injectWith [] Request.answer parsed)
  refine ⟨_, ran.trans ?_, scanned, by decide +kernel⟩
  simp [asked, misuse, Tree.substitute, Tree.walk, Node.walk, answered, editsFor, render, splice]
  rfl

end Folio.Script
