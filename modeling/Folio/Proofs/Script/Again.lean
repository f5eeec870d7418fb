import Folio.Proofs.Script.Awaiting
import Folio.Proofs.Script.Balanced
import Folio.Proofs.Script.Replaced

/-!
# Injecting a script again

The pass over an injected script goes side by side with the one over its source (`Rewritten.rerun`), so
it finds no call and only the references that have no route. Injecting it again asks for nothing and
changes nothing (`injectWith_again`).
-/

namespace Folio.Script

open Text

/-! ## Tokens that say nothing of the next one -/

theorem Token.IsQuote.text_not_mem {t : Token} (quoted : t.IsQuote) {texts : List String}
    (other : ∀ text ∈ texts, text.toList.head? ≠ some '"') : t.text ∉ texts := by
  obtain ⟨-, text, spelled⟩ := quoted
  intro member
  refine other _ member ?_
  rw [spelled, quote_eq, String.toList_ofList]
  rfl

theorem Token.IsQuote.isInert {t : Token} (quoted : t.IsQuote) : t.IsInert where
  kind := by simp [quoted.1]
  mark := by simp [quoted.1]
  text := quoted.text_not_mem (by decide)

theorem isInert_of_path {t : Token} (plain : t.kind = .plainName)
    (path : "_path".toList <:+ t.text.toList) : t.IsInert where
  kind := by simp [plain]
  mark := by simp [plain]
  text := by
    have other : ∀ text ∈ ["import", "as", "\x7b", "\x7d", ";"] ++ keyModifiers,
        ¬ "_path".toList <:+ text.toList := by decide
    exact fun member => other _ member path

theorem isInert_of_closes {t : Token} (proper : t.IsProper) (closes : t.closes = true)
    (other : t.text ≠ "\x7d") : t.IsInert := by
  have kind := proper (Or.inr closes)
  have closer := (Bool.and_eq_true_iff.1 closes).2
  simp only [Token.isCloserText, Bool.or_eq_true, beq_iff_eq, other, or_false] at closer
  refine ⟨by simp [kind], fun _ => by simpa using closer, ?_⟩
  rcases closer with text | text <;> rw [text] <;> decide

theorem Rewritten.ahead {Site : Token → List Token → Nat → Prop} {Gone : Reference → Prop}
    {tokens tokens' : List Token} (rewritten : Rewritten Site Gone tokens tokens') :
    AlikeAhead tokens.head? tokens'.head? := by
  have named {t : Token} (simple : isSimpleName t.text = true) : t.text ∉ aheadTexts := by
    have other : ∀ text ∈ aheadTexts, isSimpleName text = false := by decide
    intro member
    rw [other _ member] at simple
    cases simple
  have quotes {t : Token} (quoted : t.IsQuote) : t.text ∉ aheadTexts :=
    quoted.text_not_mem (by decide)
  cases rewritten with
  | done => exact .done
  | kept t t' again near stays site later => exact .same again.text
  | literal t t' plain simple uncalled quoted broken gone site later =>
    exact .other (named simple) (quotes quoted)
  | labelled t t' colon t'' plain again uncalled mark other quoted unbroken gone site later =>
    exact .same again.text
  | call t close t' plain simple kinds closes quoted broken site later =>
    exact .other (named simple) (quotes quoted)

/-! ## Where references are found -/

theorem Ascending.drop {low high : Nat} {tokens : List Token} (ascending : Ascending low tokens high)
    (count : Nat) : Ascending low (tokens.drop count) high := by
  induction tokens generalizing low count with
  | nil => rwa [List.drop_nil]
  | cons t tokens ih =>
    cases count with
    | zero => exact ascending
    | succ count =>
      obtain ⟨start, some, later⟩ := ascending
      exact (ih later count).mono (by omega)

theorem Effect.mem_references {source : List Char} {names : List String} {s u : State} {t : Token}
    {rest : List Token} {taken : Nat} (effect : Effect source names s t rest u taken)
    (marked : s.Marked) {r : Reference} (member : r ∈ u.references) :
    r ∈ s.references ∨ t.kind = .plainName ∧ r.start = t.start ∧ u.references = r :: s.references := by
  cases effect with
  | quiet same => exact Or.inl (same.2.1 ▸ member)
  | opened calls references marks => exact Or.inl (references ▸ member)
  | closed calls marks references =>
    rcases references with references | references
    · exact Or.inl (references ▸ member)
    · rw [references] at member
      exact Or.inl (((List.pairwise_cons.1 marked).1 _ (by simp [marks])).subset member)
  | reported shorthand plain simple follows uncalled calls references marks =>
    rw [references] at member
    rcases List.mem_cons.1 member with rfl | member
    · exact Or.inr ⟨plain, rfl, references⟩
    · exact Or.inl member
  | called plain named opens found calls references marks => exact Or.inl (references ▸ member)

section Reaches

variable {source : List Char} {names : List String} {whole toCome rest : List Token} {s u f : State}
  {previous : Option Token} {t : Token} {taken low high : Nat}

/-- A pass that has come to some tokens ends as the whole pass does. -/
theorem Reaches.run_eq (ran : State.initial.run source names none whole = .ok f)
    (reaches : Reaches source names whole s previous toCome) :
    s.run source names previous toCome = .ok f := by
  induction reaches with
  | start => exact ran
  | step earlier step ih =>
    obtain ⟨u, taken, again, later⟩ := run_cons_eq_ok ih
    rw [step] at again
    cases again
    exact later

/-- The references found are those of tokens that have passed. -/
theorem Reaches.references_before (ascending : Ascending low whole high)
    (reaches : Reaches source names whole s previous toCome) :
    s.Marked ∧ ∀ r ∈ s.references, ∀ u ∈ toCome, r.start < u.start := by
  induction reaches with
  | start => exact ⟨marked_initial, fun r member => absurd member List.not_mem_nil⟩
  | @step s s' previous t rest taken earlier step ih =>
    obtain ⟨marked, before⟩ := ih
    have effect := step_effect step
    refine ⟨effect.marked marked, fun r member u toCome => ?_⟩
    have later : u ∈ rest := List.mem_of_mem_drop toCome
    rcases effect.mem_references marked member with old | ⟨-, start, -⟩
    · exact before r old u (List.mem_cons_of_mem _ later)
    · rw [start]
      exact (List.pairwise_cons.1 (ascending.pairwise.2.sublist earlier.suffix.sublist)).1 u later

/-- A reference that a script has is reported at the token that it begins with. -/
theorem Reaches.reported (ran : State.initial.run source names none whole = .ok f)
    (ascending : Ascending low whole high)
    (reaches : Reaches source names whole s previous (t :: rest))
    (step : s.step source names previous t rest = .ok (u, taken)) {r : Reference}
    (member : r ∈ f.references) (start : r.start = t.start) :
    t.kind = .plainName ∧ u.references = r :: s.references := by
  obtain ⟨marked, before⟩ := reaches.references_before ascending
  obtain ⟨front, same⟩ := reaches.suffix
  rw [← same] at ascending
  obtain ⟨-, some, after⟩ := ascending.of_append
  have effect := step_effect step
  obtain ⟨nodes, placed, -, found⟩ :=
    run_placed (reaches.step step) (effect.marked marked) ((reaches.step step).run_eq ran)
  have here : r ∈ u.references := by
    rcases List.mem_append.1 (found.subset member) with later | here
    · have node := Node.mem_references.1 (List.mem_reverse.1 later)
      have beyond : t.stop ≤ r.start := ((placed.separate (after.drop taken)).pairwise.1 _ node).1
      omega
    · exact here
  rcases effect.mem_references marked here with old | ⟨plain, -, references⟩
  · have earlier := before r old t List.mem_cons_self
    omega
  · exact ⟨plain, references⟩

end Reaches

/-! ## The pass over an injected script -/

/-- Before the end of a property no parameter list is waited for. -/
theorem ListComes.not_before_end {previous : Option Token} {t : Token} {rest : List Token}
    (comes : ListComes previous (t :: rest)) (plain : t.kind = .plainName)
    (simple : isSimpleName t.text = true) (ends : textIn [",", "\x7d"] rest.head? = true) : False := by
  cases comes with
  | here opens => simp [Token.isPunctuation, plain] at opens
  | name silent opens =>
    have text := (Bool.and_eq_true_iff.1 opens).2
    simp [textIn, beq_iff_eq.1 text] at ends
  | generator mark silent opens =>
    rw [mark] at simple
    cases simple

section Rerun

variable {source : List Char} {Gone : Reference → Prop} {whole tokens tokens' : List Token}
  {s s' f : State} {previous previous' : Option Token} {low high : Nat}

/-- What the second of two passes side by side relies on: the references that are gone are found in
the first one and named like routes, parameter lists come where they are waited for, and the calls
end in brackets that say nothing of the next token. -/
structure Steady (source : List Char) (Gone : Reference → Prop) (whole : List Token) (f : State) :
    Prop where
  ran : State.initial.run source helperNames none whole = .ok f
  ascending : Ascending 0 whole source.length
  gone : ∀ r, Gone r → r ∈ f.references ∧ "_path".toList <:+ r.name.toList
  listed : FunctionsListed whole
  methods : MethodsListed (State.initial.visits source helperNames none whole)
  closers : ∀ close ∈ whole, close.closes = true → (∃ call ∈ f.calls, call.stop = close.stop) →
    close.IsInert

/-- A pass over tokens with literals in place ends beside the pass over the tokens themselves. -/
theorem Rewritten.rerun (source' : List Char) (steady : Steady source Gone whole f)
    (rewritten : Rewritten (Visited source helperNames whole) Gone tokens tokens')
    (reaches : Reaches source helperNames whole s previous tokens) (twin : s.Twin Gone s')
    (alike : Alike previous previous') :
    ∃ f', s'.run source' helperNames previous' tokens' = .ok f' ∧ f.Twin Gone f' := by
  induction rewritten generalizing s s' previous previous' with
  | done =>
    obtain ⟨closed, rfl⟩ := run_nil_eq_ok (reaches.run_eq steady.ran)
    have closed' : s'.outer = [] := by
      have outer := twin.outer
      rw [closed] at outer
      exact List.forall₂_nil_left_iff.1 outer
    exact ⟨s', by rw [State.run, closed'], twin⟩
  | @kept tokens tokens' t t' again near stays site later ih =>
    obtain ⟨s₂, previous₂, u, reaches₂, step⟩ := site
    obtain ⟨rfl, rfl⟩ := reaches.unique reaches₂
    obtain ⟨u', step', twin'⟩ :=
      twin.step_kept source' alike again later.ahead stays near step
    obtain ⟨f', ran, ended⟩ := ih (reaches.step step) twin' (.same again.kind again.text)
    exact ⟨f', (run_of_step step').trans ran, ended⟩
  | @literal tokens tokens' t t' plain simple uncalled quoted broken gone site later ih =>
    obtain ⟨s₂, previous₂, u, reaches₂, step⟩ := site
    obtain ⟨rfl, rfl⟩ := reaches.unique reaches₂
    obtain ⟨member, path⟩ := steady.gone _ gone
    obtain ⟨-, reported⟩ := reaches.reported steady.ran steady.ascending step member rfl
    obtain ⟨u', step', twin'⟩ := twin.step_literal source' alike plain quoted tokens'
      broken gone step reported
    obtain ⟨f', ran, ended⟩ :=
      ih (reaches.step step) twin' (.inert (isInert_of_path plain path) quoted.isInert)
    exact ⟨f', (run_of_step step').trans ran, ended⟩
  | @labelled tokens tokens' t t' colon t'' plain again uncalled mark other quoted unbroken gone site
      later ih =>
    obtain ⟨s₂, previous₂, u, reaches₂, step⟩ := site
    obtain ⟨rfl, rfl⟩ := reaches.unique reaches₂
    obtain ⟨member, path⟩ := steady.gone _ gone
    obtain ⟨-, reported⟩ := reaches.reported steady.ran steady.ascending step member rfl
    have unawaited : s.pendingParams = false := by
      refine Bool.eq_false_iff.2 fun pending => ?_
      obtain ⟨-, role⟩ := reference_of_reported plain step reported
      have simple := (roleOf_passive_or_simple helperNames (s.settle previous t) previous t
        tokens.head?).resolve_left (by simp [role])
      exact (reaches.listComes steady.listed steady.methods pending).not_before_end plain simple
        (textIn_of_roleOf role)
    obtain ⟨u', ran', twin'⟩ := twin.run_labelled source' alike plain again mark other
      quoted unbroken gone tokens' unawaited step reported
    obtain ⟨f', ran, ended⟩ :=
      ih (reaches.step step) twin' (.inert (isInert_of_path plain path) quoted.isInert)
    exact ⟨f', ran'.trans ran, ended⟩
  | @call tokens tokens' inside t close t' plain simple kinds closes quoted broken site later ih =>
    obtain ⟨s₂, previous₂, u, reaches₂, step⟩ := site
    obtain ⟨rfl, rfl⟩ := reaches.unique reaches₂
    have last : (t :: (inside ++ close :: tokens))[inside.length + 1]? = some close := by simp
    have rest : (inside ++ close :: tokens).drop (inside.length + 1) = tokens := by
      simp [List.drop_append]
    have next : Reaches source helperNames whole u (some close) tokens := by
      have reached := reaches.step step
      rwa [last, rest] at reached
    have inert : close.IsInert := by
      refine steady.closers close (reaches.suffix.mem (by simp)) closes ?_
      obtain ⟨call, found, called, -⟩ := call_of_taken plain step (Nat.succ_ne_zero _)
      refine ⟨call, calls_subset_of_run (next.run_eq steady.ran) ?_, ?_⟩
      · rw [called]
        exact List.mem_cons_self
      · obtain ⟨opener, inside', close', arguments, more, split, count, -, -, rfl⟩ :=
          callAt_eq_ok found
        have length : inside.length = (opener :: inside').length := Nat.succ.inj count
        exact congrArg Token.stop (List.cons.inj (List.append_inj_right split length)).1.symm
    obtain ⟨u', step', twin'⟩ := twin.step_call source' alike plain quoted tokens'
      broken (Nat.succ_ne_zero _) step
    obtain ⟨f', ran, ended⟩ := ih next twin' (.inert inert quoted.isInert)
    exact ⟨f', (run_of_step step').trans ran, ended⟩

end Rerun

/-! ## Injections -/

section Injection

theorem filterMap_answered (routes : List (String × String)) {nodes : List Node}
    (uncalled : Node.calls nodes = []) :
    (answered routes nodes []).filterMap Edit.ofText = (Node.references nodes).filterMap fun r =>
      (routes.lookup r.name).map fun path => Edit.ofReference r (quote path) := by
  induction nodes with
  | nil => rfl
  | cons n nodes ih =>
    cases n with
    | call c => cases uncalled
    | reference r =>
      rw [answered, Node.references_cons_reference, List.filterMap_cons, List.filterMap_cons,
        ih uncalled]
      cases routes.lookup r.name <;> rfl

/-- What becomes of a script without helper calls. -/
theorem injectWith_of_uncalled {m : Type → Type} [Monad m] [LawfulMonad m]
    (routes : List (String × String)) (ask : Request → m String) {source : String} {tree : Tree}
    (parsed : parse helperNames source.toList = .ok tree) (uncalled : tree.calls = []) :
    injectWith routes ask source =
      pure (String.ofList (splice 0 source.toList (tree.references.filterMap fun r =>
        (routes.lookup r.name).map fun path => Edit.ofReference r (quote path)))) := by
  obtain ⟨same, calls, references, separate, -⟩ := parse_placed parsed
  have placed : tree.substitute (answered routes tree.walk []) = splice 0 source.toList
      (tree.references.filterMap fun r =>
        (routes.lookup r.name).map fun path => Edit.ofReference r (quote path)) := by
    rw [Tree.substitute, same, render_eq_splice (by rwa [answered_fst]),
      filterMap_answered routes (calls.trans uncalled), references]
  have ran := run_injectWith routes ask parsed
  rw [uncalled] at ran
  refine ExceptT.ext (ran.trans ?_)
  simp [asked, misuse, placed]

theorem exists_mem_of_lookup {routes : List (String × String)} {name : String}
    (found : (routes.lookup name).isSome = true) : ∃ route ∈ routes, route.1 = name := by
  obtain ⟨path, found⟩ := Option.isSome_iff_exists.1 found
  obtain ⟨before, after, rfl, -⟩ := List.lookup_eq_some_iff.1 found
  exact ⟨(name, path), by simp, rfl⟩

/-- A significant token among all tokens of a script. -/
theorem exists_of_mem_significant {tokens : List Token} {u : Token} (member : u ∈ significant tokens) :
    ∃ raw t raw', tokens = raw ++ t :: raw' ∧ u = { t with afterBreak := u.afterBreak } := by
  obtain ⟨before, after, split⟩ := List.append_of_mem member
  obtain ⟨raw, t, raw', same, -, token, -, -⟩ := significantFrom_split split
  exact ⟨raw, t, raw', same, token⟩

variable {source : List Char} {tokens : List Token}

theorem getElem?_of_close (scanned : scan source = .ok tokens) {close : Token}
    (member : close ∈ significant tokens) (text : close.text = "\x7d") :
    source[close.stop - 1]? = some '\x7d' := by
  obtain ⟨raw, t, raw', rfl, same⟩ := exists_of_mem_significant member
  obtain ⟨rest, whole, start, -⟩ := (scan_covers scanned).split
  have spelled : t.text = "\x7d" := by
    rw [same] at text
    exact text
  have stop : close.stop - 1 = (spelling raw).length := by
    rw [same]
    change t.start + t.text.length - 1 = _
    rw [start, spelled, Nat.zero_add]
    rfl
  rw [whole, stop, spelled]
  simp

theorem isProper_of_mem_significant (scanned : scan source = .ok tokens) {t : Token}
    (member : t ∈ significant tokens) : t.IsProper := by
  obtain ⟨raw, t', raw', rfl, same⟩ := exists_of_mem_significant member
  have proper := isProper_of_scanFrom scanned t' (by simp)
  rw [same]
  exact proper

/-- Whether the lexer finds the tokens of a script in what an injection makes of it, with one literal
in place of each call and of each reference that has a route. -/
def LexedAgain (routes : List (String × String)) (source output : List Char) (tokens : List Token)
    (tree : Tree) : Prop :=
  ∃ tokens', scan output = .ok tokens' ∧
    Rewritten (Visited source helperNames (significant tokens)) (tree.Routed routes)
      (significant tokens) (significant tokens')

/-- The lexer finds them unless an answer may close a comment. -/
theorem lexedAgain_of_sealed {σ ε : Type} {routes : List (String × String)}
    {ask : Request → StateT σ (Except ε) String} {source output : String} {tokens : List Token}
    {tree : Tree} (scanned : scan source.toList = .ok tokens) (closed : Sealed tokens)
    (parsed : parse helperNames source.toList = .ok tree) {st st' : σ}
    (ran : (injectWith routes ask source).run.run st = .ok (.ok output, st')) :
    LexedAgain routes source.toList output.toList tokens tree := by
  obtain ⟨-, -, outcome, asks, outcomes⟩ := injectWith_spliced routes ask parsed
  rw [asks, StateT.run_bind] at ran
  obtain ⟨⟨answers, st₂⟩, answered, ran⟩ := bind_ok ran
  have done := outcomes answers (length_of_mapM answered)
  have succeeded : outcome answers = .ok output := congrArg Prod.fst (Except.ok.inj ran)
  cases none : tree.calls.find? (!·.isProper) with
  | some c =>
    rw [none] at done
    obtain ⟨cause, -, failed, -⟩ := done
    rw [succeeded] at failed
    cases failed
  | none =>
    rw [none] at done
    obtain ⟨all, chars, made, spliced⟩ := done
    cases succeeded.symm.trans made
    have proper : ∀ c ∈ tree.calls, c.isProper = true := by
      simpa using List.find?_eq_none.1 none
    have enough : answers.length = tree.calls.length := by
      rw [length_of_mapM answered, all, List.length_map]
    rw [LexedAgain, String.toList_ofList]
    exact scan_of_spliced scanned closed parsed proper enough spliced

/-- An injected script has no calls and no references that have a route. -/
theorem exists_parse_again {routes : List (String × String)}
    (paths : ∀ route ∈ routes, "_path".toList <:+ route.1.toList) {source output : List Char}
    {tokens : List Token} {tree : Tree} (scanned : scan source = .ok tokens)
    (methods : MethodsListed (visits source tokens)) (listed : FunctionsListed (significant tokens))
    (parsed : parse helperNames source = .ok tree)
    (closers : ∀ c ∈ tree.calls, source[c.stop - 1]? ≠ some '\x7d')
    (lexed : LexedAgain routes source output tokens tree) :
    ∃ tree', parse helperNames output = .ok tree' ∧ tree'.calls = [] ∧
      ∀ r ∈ tree'.references, routes.lookup r.name = none := by
  obtain ⟨tokens', scanned', rewritten⟩ := lexed
  unfold parse at parsed
  rw [scanned] at parsed
  dsimp only at parsed
  split at parsed
  · cases parsed
  next f ended =>
  cases parsed
  have steady : Steady source (Tree.Routed ⟨source, f.references.reverse, f.calls.reverse⟩ routes)
      (significant tokens) f := by
    refine ⟨ended, significant_ascending scanned, fun r gone => ?_, listed, methods,
      fun close member closes reported => ?_⟩
    · obtain ⟨route, listed, same⟩ := exists_mem_of_lookup gone.2
      exact ⟨List.mem_reverse.1 gone.1, same ▸ paths route listed⟩
    · obtain ⟨call, found, stop⟩ := reported
      refine isInert_of_closes (isProper_of_mem_significant scanned member) closes fun text => ?_
      exact closers call (List.mem_reverse.2 found)
        (stop ▸ getElem?_of_close scanned member text)
  obtain ⟨f', ended', twin⟩ := rewritten.rerun output steady .start twin_initial .start
  refine ⟨⟨output, f'.references.reverse, f'.calls.reverse⟩, ?_, by simp [twin.calls], ?_⟩
  · rw [parse, scanned']
    dsimp only
    rw [ended']
  · intro r' member
    obtain ⟨r, found, stays, name⟩ := twin.references.exists_mem (List.mem_reverse.1 member)
    rw [name, ← Option.not_isSome_iff_eq_none]
    exact fun route => stays ⟨List.mem_reverse.2 found, route⟩

end Injection

/-- A script that an injection has made holds no calls and no references that have a route, so it is
injected once more without a question and without a change, if the parameter lists of its source come
where the pass waits for them. -/
theorem injectWith_again {σ ε : Type} {routes : List (String × String)}
    (paths : ∀ route ∈ routes, "_path".toList <:+ route.1.toList)
    (ask : Request → StateT σ (Except ε) String) {source output : String} {tokens : List Token}
    {tree : Tree} (scanned : scan source.toList = .ok tokens)
    (methods : MethodsListed (visits source.toList tokens))
    (listed : FunctionsListed (significant tokens))
    (parsed : parse helperNames source.toList = .ok tree)
    (closers : ∀ c ∈ tree.calls, source.toList[c.stop - 1]? ≠ some '\x7d') {st st' : σ}
    (ran : (injectWith routes ask source).run.run st = .ok (.ok output, st'))
    (lexed : Sealed tokens ∨ LexedAgain routes source.toList output.toList tokens tree)
    {m : Type → Type} [Monad m] [LawfulMonad m] (ask' : Request → m String) :
    (∃ tree', parse helperNames output.toList = .ok tree' ∧ tree'.calls = [] ∧
      ∀ r ∈ tree'.references, routes.lookup r.name = none) ∧
    injectWith routes ask' output = pure output := by
  have again := lexed.elim (fun closed => lexedAgain_of_sealed scanned closed parsed ran) id
  obtain ⟨tree', parsed', uncalled, routeless⟩ :=
    exists_parse_again paths scanned methods listed parsed closers again
  refine ⟨⟨tree', parsed', uncalled, routeless⟩, ?_⟩
  have unedited := List.filterMap_eq_nil_iff.2 fun r member =>
    congrArg (Option.map fun path => Edit.ofReference r (quote path)) (routeless r member)
  rw [injectWith_of_uncalled routes ask' parsed' uncalled, unedited, splice, String.ofList_toList]

/-- A shorthand, a call and a reference behind a function. -/
theorem injectWith_again_of_function : ∃ output,
    (injectWith [("about_path", "/about")] Request.answer
      "function f(a) \x7b return \x7b about_path, b: asset_path('a') \x7d; \x7d f(about_path)").run.run () =
        .ok (.ok output, ()) ∧
    (∃ tree', parse helperNames output.toList = .ok tree' ∧ tree'.calls = [] ∧
      ∀ r ∈ tree'.references, [("about_path", "/about")].lookup r.name = none) ∧
    injectWith (m := Id) [("about_path", "/about")] (fun request => pure request.name) output =
      pure output := by
  have scanned : scan
      "function f(a) \x7b return \x7b about_path, b: asset_path('a') \x7d; \x7d f(about_path)".toList =
      .ok ((scan
        "function f(a) \x7b return \x7b about_path, b: asset_path('a') \x7d; \x7d f(about_path)".toList
        ).toOption.getD []) := by
    decide +kernel
  have parsed : parse helperNames
      "function f(a) \x7b return \x7b about_path, b: asset_path('a') \x7d; \x7d f(about_path)".toList =
      .ok ⟨"function f(a) \x7b return \x7b about_path, b: asset_path('a') \x7d; \x7d f(about_path)".toList,
        [⟨"about_path", 25, true⟩, ⟨"f", 61, false⟩, ⟨"about_path", 63, false⟩],
        [⟨⟨"asset_path", 40, false⟩, 55, [⟨51, 54, "'a'", some "a"⟩]⟩]⟩ := by
    decide +kernel
  have ran := congrArg (·.run ()) (run_injectWith [("about_path", "/about")] Request.answer parsed)
  exact ⟨_, ran, injectWith_again (by decide) Request.answer scanned (by decide +kernel)
    (by decide +kernel) parsed (by decide +kernel) ran (Or.inl (by decide +kernel)) _⟩

/-- Template text behind a brace is taken for the parameters of a method, and the next parenthesis for
their list. -/
theorem injectWith_again_fails : ∃ tokens,
    scan "n++\n\x7b `(` \x7d\nx = \x7b about_path \x7d;\nf(about_path)".toList = .ok tokens ∧
    Sealed tokens ∧ FunctionsListed (significant tokens) ∧
    injectWith (m := Id) [("about_path", "/about")] (fun request => pure request.name)
        "n++\n\x7b `(` \x7d\nx = \x7b about_path \x7d;\nf(about_path)" =
      pure "n++\n\x7b `(` \x7d\nx = \x7b about_path: \"/about\" \x7d;\nf(about_path)" ∧
    injectWith (m := Id) [("about_path", "/about")] (fun request => pure request.name)
        "n++\n\x7b `(` \x7d\nx = \x7b about_path: \"/about\" \x7d;\nf(about_path)" =
      pure "n++\n\x7b `(` \x7d\nx = \x7b about_path: \"/about\" \x7d;\nf(\"/about\")" := by
  have scanned : scan
      "n++\n\x7b `(` \x7d\nx = \x7b about_path \x7d;\nf(about_path)".toList =
      .ok ((scan "n++\n\x7b `(` \x7d\nx = \x7b about_path \x7d;\nf(about_path)".toList
        ).toOption.getD []) := by
    decide +kernel
  have parsed : parse helperNames
      "n++\n\x7b `(` \x7d\nx = \x7b about_path \x7d;\nf(about_path)".toList =
      .ok ⟨"n++\n\x7b `(` \x7d\nx = \x7b about_path \x7d;\nf(about_path)".toList,
        [⟨"n", 0, false⟩, ⟨"x", 12, false⟩, ⟨"about_path", 18, true⟩, ⟨"f", 32, false⟩], []⟩ := by
    decide +kernel
  have parsed' : parse helperNames
      "n++\n\x7b `(` \x7d\nx = \x7b about_path: \"/about\" \x7d;\nf(about_path)".toList =
      .ok ⟨"n++\n\x7b `(` \x7d\nx = \x7b about_path: \"/about\" \x7d;\nf(about_path)".toList,
        [⟨"n", 0, false⟩, ⟨"x", 12, false⟩, ⟨"f", 42, false⟩, ⟨"about_path", 44, false⟩], []⟩ := by
    decide +kernel
  refine ⟨_, scanned, by decide +kernel, by decide +kernel,
    (injectWith_of_uncalled _ _ parsed rfl).trans ?_,
    (injectWith_of_uncalled _ _ parsed' rfl).trans ?_⟩
  · exact congrArg pure (by decide +kernel)
  · exact congrArg pure (by decide +kernel)

end Folio.Script
