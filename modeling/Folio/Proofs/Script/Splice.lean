import Folio.Proofs.Script.Placement
import Folio.Script.Inject
import Mathlib.Data.List.TakeWhile

/-!
# Injection is an exact splice

`render` puts the new texts of separate nodes in place and keeps all else (`render_spliced`).
`injectWith` asks for the assets of the calls one after the other up to the first that is misused,
and splices the answers (`injectWith_spliced`).
-/

namespace Folio.Script

/-! ## Splices -/

/-- What stands in place of a node with a new text; a shorthand keeps its key. -/
def Node.replacement (n : Node) (text : String) : String :=
  match n with
  | .call _ => text
  | .reference r => if r.shorthand then r.name ++ ": " ++ text else text

/-- A source from an offset on and what becomes of it under new texts for some nodes: each node
with a text is replaced, one without stays, and so does everything between nodes. -/
inductive Spliced : Nat → List (Node × Option String) → List Char → List Char → Prop
  | done (offset : Nat) (kept : List Char) : Spliced offset [] kept kept
  | node {offset : Nat} {n : Node} {texts : List (Node × Option String)}
      {gap old rest output : List Char} (text : Option String)
      (start : n.start = offset + gap.length) (stop : n.stop = n.start + old.length)
      (later : Spliced n.stop texts rest output) :
      Spliced offset ((n, text) :: texts) (gap ++ old ++ rest)
        (gap ++ (text.elim old fun text => (n.replacement text).toList) ++ output)

namespace Edit

theorem start_ofNode (n : Node) (text : String) : (ofNode n text).start = n.start := by
  cases n <;> rfl

theorem stop_ofNode (n : Node) (text : String) : (ofNode n text).stop = n.stop := by
  cases n <;> rfl

theorem text_ofNode (n : Node) (text : String) : (ofNode n text).text = n.replacement text := by
  cases n with
  | call c => rfl
  | reference r => rfl

/-- Edits of different ranges are scheduled as they come. -/
theorem foldl_schedule {edits scheduled : List Edit}
    (apart : (scheduled ++ edits).Pairwise fun a b => a.start < b.start) :
    edits.foldl schedule scheduled = scheduled ++ edits := by
  induction edits generalizing scheduled with
  | nil => simp
  | cons e edits ih =>
    have fresh : schedule scheduled e = scheduled ++ [e] := by
      refine congrArg (· ++ [e]) (List.filter_eq_self.2 ?_)
      intro other member
      have before := (List.pairwise_append.1 apart).2.2 other member e (by simp)
      simp [sameRange, Nat.ne_of_lt before]
    rw [List.foldl_cons, fresh, ih (by simpa using apart), List.append_assoc]
    rfl

end Edit

section Render

variable {texts : List (Node × Option String)} {low high : Nat}

theorem edits_bounds (separate : Node.Separate low (texts.map Prod.fst) high) :
    ∀ e ∈ texts.filterMap Edit.ofText, low ≤ e.start ∧ e.start < e.stop := by
  intro e member
  obtain ⟨⟨n, text⟩, entry, edit⟩ := List.mem_filterMap.1 member
  obtain ⟨text, -, rfl⟩ := Option.map_eq_some_iff.1 edit
  obtain ⟨start, some, -⟩ := separate.pairwise.1 n (List.mem_map.2 ⟨_, entry, rfl⟩)
  rw [Edit.start_ofNode, Edit.stop_ofNode]
  exact ⟨start, some⟩

theorem edits_pairwise (separate : Node.Separate low (texts.map Prod.fst) high) :
    (texts.filterMap Edit.ofText).Pairwise fun a b => a.start < b.start := by
  induction texts generalizing low with
  | nil => exact List.Pairwise.nil
  | cons entry texts ih =>
    obtain ⟨n, text⟩ := entry
    obtain ⟨start, some, later⟩ := separate
    cases text with
    | none => exact ih later
    | some text =>
      refine List.pairwise_cons.2 ⟨fun e member => ?_, ih later⟩
      have bound := (edits_bounds later e member).1
      rw [Edit.start_ofNode]
      exact Nat.lt_of_lt_of_le some bound

theorem editsFor_eq (separate : Node.Separate low (texts.map Prod.fst) high) :
    editsFor texts = texts.filterMap Edit.ofText :=
  Edit.foldl_schedule (edits_pairwise separate)

/-- Text before all edits stays. -/
theorem splice_append {before rest : List Char} {edits : List Edit} {cursor : Nat}
    (after : ∀ e ∈ edits, cursor + before.length ≤ e.start ∧ e.start < e.stop) :
    splice cursor (before ++ rest) edits =
      before ++ splice (cursor + before.length) rest edits := by
  cases edits with
  | nil => rfl
  | cons e edits =>
    obtain ⟨start, some⟩ := after e (by simp)
    have taken : (before ++ rest).take (e.start - cursor) =
        before ++ rest.take (e.start - (cursor + before.length)) := by
      rw [List.take_append, List.take_of_length_le (by omega), Nat.sub_sub]
    have dropped : (before ++ rest).drop (e.stop - cursor) =
        rest.drop (e.stop - (cursor + before.length)) := by
      rw [List.drop_append, List.drop_eq_nil_of_le (by omega), List.nil_append, Nat.sub_sub]
    unfold splice
    rw [if_neg (by omega), if_neg (by omega), taken, dropped]
    simp only [List.append_assoc]

/-- A text cut at the two ends of a range. -/
theorem take_append_slice {source : List Char} {low start stop : Nat} (le : low ≤ start)
    (le' : start ≤ stop) : source.take (start - low) ++
      (source.drop (start - low)).take (stop - start) ++ source.drop (stop - low) = source := by
  have rest : source.drop (stop - low) = (source.drop (start - low)).drop (stop - start) := by
    rw [List.drop_drop]
    congr 1
    omega
  rw [rest, List.append_assoc, List.take_append_drop, List.take_append_drop]

theorem splice_spliced {source : List Char}
    (separate : Node.Separate low (texts.map Prod.fst) (low + source.length)) :
    Spliced low texts source (splice low source (texts.filterMap Edit.ofText)) := by
  induction texts generalizing low source with
  | nil => exact .done low source
  | cons entry texts ih =>
    obtain ⟨n, text⟩ := entry
    have bound := (separate.pairwise.1 n (by simp)).2.2
    obtain ⟨start, some, later⟩ : low ≤ n.start ∧ n.start < n.stop ∧
      Node.Separate n.stop (texts.map Prod.fst) (low + source.length) := separate
    have cut : source.take (n.start - low) ++ (source.drop (n.start - low)).take
        (n.stop - n.start) ++ source.drop (n.stop - low) = source :=
      take_append_slice start (Nat.le_of_lt some)
    generalize gapIs : source.take (n.start - low) = gap at cut
    generalize oldIs : (source.drop (n.start - low)).take (n.stop - n.start) = old at cut
    generalize restIs : source.drop (n.stop - low) = rest at cut
    have gapLength : n.start = low + gap.length := by
      rw [← gapIs, List.length_take]
      omega
    have oldLength : n.stop = n.start + old.length := by
      rw [← oldIs, List.length_take, List.length_drop]
      omega
    have restLength : low + source.length = n.stop + rest.length := by
      rw [← restIs, List.length_drop]
      omega
    have spliced := ih (restLength ▸ later)
    have whole := Spliced.node text gapLength oldLength spliced
    rw [cut] at whole
    cases text with
    | none =>
      have same : splice low source (texts.filterMap Edit.ofText) =
          gap ++ old ++ splice n.stop rest (texts.filterMap Edit.ofText) := by
        have cursor : low + (gap ++ old).length = n.stop := by
          rw [List.length_append]
          omega
        rw [← cut, splice_append (fun e member => cursor ▸ edits_bounds later e member), cursor]
      exact same ▸ whole
    | some text =>
      have same : splice low source (Edit.ofNode n text :: texts.filterMap Edit.ofText) =
          gap ++ (n.replacement text).toList ++
            splice n.stop rest (texts.filterMap Edit.ofText) := by
        rw [splice, Edit.start_ofNode, Edit.stop_ofNode, Edit.text_ofNode, if_neg (by omega), gapIs,
          restIs]
      exact same ▸ whole

/-- The edits of separate nodes come one after the other. -/
theorem render_eq_splice {source : List Char}
    (separate : Node.Separate 0 (texts.map Prod.fst) source.length) :
    render source (editsFor texts) = splice 0 source (texts.filterMap Edit.ofText) := by
  have sorted : (editsFor texts).Pairwise fun a b => a.isBefore b = true := by
    rw [editsFor_eq separate]
    refine (edits_pairwise separate).imp fun before => ?_
    simp [Edit.isBefore, before]
  rw [render, List.mergeSort_of_pairwise sorted, editsFor_eq separate]

/-- New texts for separate nodes all come into place. -/
theorem render_spliced {source : List Char}
    (separate : Node.Separate 0 (texts.map Prod.fst) source.length) :
    Spliced 0 texts source (render source (editsFor texts)) := by
  rw [render_eq_splice separate]
  exact splice_spliced (by simpa using separate)

end Render

/-! ## Requests -/

namespace Call

/-- The value of the only argument of a call, if that is a plain string. -/
def literal? (c : Call) : Option String :=
  match c.arguments with
  | [a] => a.literal
  | _ => none

/-- Whether a call has exactly one argument and that a plain string. -/
def isProper (c : Call) : Bool :=
  c.literal?.isSome

/-- What a call asks for, if it is proper. -/
def question (c : Call) : Request :=
  ⟨c.literal?.getD "", (Helper.ofName? c.callee.name).bind Helper.category⟩

theorem assetName_eq (c : Call) :
    match c.literal? with
    | some value => c.assetName = .ok value
    | none => ∃ cause, c.assetName = .error cause ∧ cause.isMisuse = true := by
  unfold literal? assetName
  rcases c.arguments with - | ⟨a, - | ⟨b, more⟩⟩
  · exact ⟨_, rfl, rfl⟩
  · dsimp only
    cases a.literal with
    | none => exact ⟨_, rfl, rfl⟩
    | some value => rfl
  · exact ⟨_, rfl, rfl⟩

theorem ofName?_of_mem {name : String} (helper : name ∈ helperNames) :
    ∃ h, Helper.ofName? name = some h := by
  obtain ⟨h, member, same⟩ := List.mem_map.1 helper
  exact Option.isSome_iff_exists.1 (List.find?_isSome.2 ⟨h, member, beq_iff_eq.2 same⟩)

theorem request_of_isProper {c : Call} (helper : c.callee.name ∈ helperNames)
    (proper : c.isProper = true) : c.request = .ok (some c.question) := by
  obtain ⟨h, found⟩ := ofName?_of_mem helper
  have name := c.assetName_eq
  obtain ⟨value, literal⟩ := Option.isSome_iff_exists.1 proper
  rw [literal] at name
  unfold request question
  simp [found, name, literal, Except.map]

theorem request_of_not_isProper {c : Call} (helper : c.callee.name ∈ helperNames)
    (improper : c.isProper = false) :
    ∃ cause, c.request = .error cause ∧ cause.isMisuse = true := by
  obtain ⟨h, found⟩ := ofName?_of_mem helper
  have name := c.assetName_eq
  rw [isProper, Option.isSome_eq_false_iff, Option.isNone_iff_eq_none] at improper
  rw [improper] at name
  obtain ⟨cause, failed, misuse⟩ := name
  exact ⟨cause, by simp [request, found, failed, Except.map], misuse⟩

end Call

/-! ## Answers -/

/-- The new texts of some nodes: a call takes the next answer, a reference its route. -/
def answered (routes : List (String × String)) :
    List Node → List String → List (Node × Option String)
  | [], _ => []
  | .reference r :: nodes, answers =>
    (.reference r, (routes.lookup r.name).map Text.quote) :: answered routes nodes answers
  | .call c :: nodes, answers =>
    (.call c, answers.head?.map Text.quote) :: answered routes nodes answers.tail

theorem answered_fst (routes : List (String × String)) (nodes : List Node)
    (answers : List String) : (answered routes nodes answers).map Prod.fst = nodes := by
  induction nodes generalizing answers with
  | nil => rfl
  | cons n nodes ih => cases n <;> simp [answered, ih]

/-- The proper calls before the first improper one ask, each once. -/
def asked (calls : List Call) : List Request :=
  (calls.takeWhile Call.isProper).map Call.question

section Injection

variable {m : Type → Type} [Monad m] [LawfulMonad m]

/-- What is wrong with the first improper call. -/
def misuse (calls : List Call) : Option Defect :=
  (calls.find? (!·.isProper)).bind fun c =>
    match c.request with
    | .error cause => some ⟨cause, c.start⟩
    | .ok _ => none

theorem misuse_of_not_isProper {c : Call} {cause : Cause} (improper : c.isProper = false)
    (failed : c.request = .error cause) (calls : List Call) :
    misuse (c :: calls) = some ⟨cause, c.start⟩ := by
  simp [misuse, improper, failed]

theorem misuse_of_isProper {c : Call} (proper : c.isProper = true) (calls : List Call) :
    misuse (c :: calls) = misuse calls := by
  simp [misuse, proper]

theorem run_withConstant_reference (routes : List (String × String)) (ask : Request → m String)
    (r : Reference) :
    ((Node.reference r).withConstant routes ask).run =
      pure (.ok (.reference r, (routes.lookup r.name).map Text.quote)) := by
  simp [Node.withConstant, Node.constant]

theorem run_withConstant_of_isProper (routes : List (String × String)) (ask : Request → m String)
    {c : Call} (helper : c.callee.name ∈ helperNames) (proper : c.isProper = true) :
    ((Node.call c).withConstant routes ask).run = (do
      let path ← ask c.question
      return .ok (.call c, some (Text.quote path))) := by
  simp [Node.withConstant, Node.constant, Call.request_of_isProper helper proper, Except.map]

theorem run_withConstant_of_not_isProper (routes : List (String × String))
    (ask : Request → m String) {c : Call} {cause : Cause} (failed : c.request = .error cause) :
    ((Node.call c).withConstant routes ask).run = pure (.error ⟨cause, c.start⟩) := by
  simp [Node.withConstant, Node.constant, failed]

/-- Along some nodes the proper calls ask, up to the first improper one, which stops the rest. -/
theorem run_mapM_withConstant (routes : List (String × String)) (ask : Request → m String)
    (nodes : List Node) (helpers : ∀ c ∈ Node.calls nodes, c.callee.name ∈ helperNames) :
    (nodes.mapM (Node.withConstant routes ask)).run = (do
      let answers ← (asked (Node.calls nodes)).mapM ask
      return (misuse (Node.calls nodes)).elim (.ok (answered routes nodes answers)) .error) := by
  induction nodes with
  | nil => simp [asked, misuse, answered, Node.calls]
  | cons n nodes ih =>
    rw [List.mapM_cons, ExceptT.run_bind]
    cases n with
    | reference r =>
      rw [run_withConstant_reference, pure_bind]
      dsimp only
      rw [ExceptT.run_bind, ih helpers, bind_assoc, Node.calls_cons_reference]
      refine bind_congr fun answers => ?_
      rw [pure_bind]
      cases misuse (Node.calls nodes) <;> rfl
    | call c =>
      have helper := helpers c (by simp)
      have ih := ih fun c' member => helpers c' (List.mem_cons_of_mem c member)
      cases proper : c.isProper with
      | true =>
        have questions : asked (c :: Node.calls nodes) = c.question :: asked (Node.calls nodes) := by
          simp [asked, proper]
        rw [run_withConstant_of_isProper routes ask helper proper, Node.calls_cons_call, questions,
          misuse_of_isProper proper, List.mapM_cons, bind_assoc, bind_assoc]
        refine bind_congr fun path => ?_
        rw [pure_bind, bind_assoc]
        dsimp only
        rw [ExceptT.run_bind, ih, bind_assoc]
        refine bind_congr fun answers => ?_
        rw [pure_bind, pure_bind]
        cases misuse (Node.calls nodes) <;> rfl
      | false =>
        obtain ⟨cause, failed, -⟩ := Call.request_of_not_isProper helper proper
        have questions : asked (c :: Node.calls nodes) = [] := by
          simp [asked, proper]
        rw [run_withConstant_of_not_isProper routes ask failed, Node.calls_cons_call, questions,
          misuse_of_not_isProper proper failed, List.mapM_nil, pure_bind, pure_bind]
        rfl

/-! ## Injections -/

theorem asked_of_forall_isProper {calls : List Call} (proper : ∀ c ∈ calls, c.isProper = true) :
    asked calls = calls.map Call.question := by
  rw [asked, List.takeWhile_eq_self_iff.2 proper]

theorem misuse_of_find? {calls : List Call} {c : Call}
    (helpers : ∀ c ∈ calls, c.callee.name ∈ helperNames)
    (improper : calls.find? (!·.isProper) = some c) :
    ∃ cause, cause.isMisuse = true ∧ misuse calls = some ⟨cause, c.start⟩ := by
  have notProper : c.isProper = false := by simpa using List.find?_some improper
  obtain ⟨cause, failed, isMisuse⟩ :=
    Call.request_of_not_isProper (helpers c (List.mem_of_find?_eq_some improper)) notProper
  exact ⟨cause, isMisuse, by simp [misuse, improper, failed]⟩

/-- What an injection does with the answers to its questions. -/
theorem run_injectWith (routes : List (String × String)) (ask : Request → m String)
    {source : String} {tree : Tree} (parsed : parse helperNames source.toList = .ok tree) :
    (injectWith routes ask source).run = (do
      let answers ← (asked tree.calls).mapM ask
      return (misuse tree.calls).elim
        (.ok (String.ofList (tree.substitute (answered routes tree.walk answers)))) .error) := by
  obtain ⟨-, calls, -, -, tokens, -, placed⟩ := parse_placed parsed
  have walked := run_mapM_withConstant routes ask tree.walk placed.named
  rw [calls] at walked
  unfold injectWith
  rw [parsed]
  dsimp only
  rw [ExceptT.run_bind, walked, bind_assoc]
  refine bind_congr fun answers => ?_
  rw [pure_bind]
  cases misuse tree.calls <;> rfl

/-- Injection asks once for each call up to the first that is misused, in source order. A misused
call is the fault; if there is none, each call and each reference to a route is replaced and all
else is kept. The nodes that it goes by are apart from one another. -/
theorem injectWith_spliced (routes : List (String × String)) (ask : Request → m String)
    {source : String} {tree : Tree} (parsed : parse helperNames source.toList = .ok tree) :
    (tree.walk.Perm (tree.calls.map .call ++ tree.references.map .reference) ∧
      tree.walk.Pairwise (fun a b => a.start < b.start) ∧ Node.calls tree.walk = tree.calls) ∧
    ((tree.calls.map Node.call ++ tree.references.map Node.reference).Pairwise
        (fun a b => a.stop ≤ b.start ∨ b.stop ≤ a.start) ∧
      ∀ n ∈ tree.walk, n.start < n.stop ∧ n.stop ≤ source.length) ∧
    ∃ outcome : List String → Except Defect String,
      (injectWith routes ask source).run = (do
        let answers ← (asked tree.calls).mapM ask
        return outcome answers) ∧
      ∀ answers : List String, answers.length = (asked tree.calls).length →
        match tree.calls.find? (!·.isProper) with
        | some c =>
          ∃ cause, cause.isMisuse = true ∧ outcome answers = .error ⟨cause, c.start⟩ ∧
            ∀ file, Defect.fault ⟨cause, c.start⟩ source.toList file =
              ⟨cause, file, (Text.Location.ofOffset source.toList c.start).line,
                (Text.Location.ofOffset source.toList c.start).column⟩
        | none =>
          asked tree.calls = tree.calls.map Call.question ∧
            ∃ output, outcome answers = .ok (String.ofList output) ∧
              Spliced 0 (answered routes tree.walk answers) source.toList output := by
  obtain ⟨same, calls, references, separate, tokens, scanned, placed⟩ := parse_placed parsed
  obtain ⟨bounds, apart⟩ := separate.pairwise
  have perm : tree.walk.Perm (tree.calls.map .call ++ tree.references.map .reference) :=
    List.mergeSort_perm _ _
  have ascending : tree.walk.Pairwise fun a b => a.start < b.start := by
    refine apart.imp_of_mem ?_
    intro a b memberA memberB before
    have := (bounds a memberA).2.1
    omega
  have helpers : ∀ c ∈ Node.calls tree.walk, c.callee.name ∈ helperNames := placed.named
  refine ⟨⟨perm, ascending, calls⟩, ⟨?_, ?_⟩, ?_⟩
  · exact (perm.pairwise_iff fun disjoint => disjoint.symm).1 (apart.imp Or.inl)
  · intro n member
    exact ⟨(bounds n member).2.1, String.length_toList ▸ (bounds n member).2.2⟩
  refine ⟨fun answers => (misuse tree.calls).elim
    (.ok (String.ofList (tree.substitute (answered routes tree.walk answers)))) .error,
    run_injectWith routes ask parsed, ?_⟩
  intro answers enough
  rw [calls] at helpers
  split
  · next c improper =>
    obtain ⟨cause, isMisuse, found⟩ := misuse_of_find? helpers improper
    exact ⟨cause, isMisuse, by rw [found]; rfl, fun file => rfl⟩
  · next none =>
    have proper : ∀ c ∈ tree.calls, c.isProper = true := by
      simpa using List.find?_eq_none.1 none
    refine ⟨asked_of_forall_isProper proper, _, by rw [misuse, none]; rfl, ?_⟩
    rw [Tree.substitute, same]
    exact render_spliced (by rwa [answered_fst])

/-- A call and a shorthand in one script, which both come to be literals. -/
theorem injectWith_spliced_of_shorthand :
    ∃ output, (injectWith (m := Id) [("about_path", "/about")] (fun request => pure request.name)
        "f(asset_path('a')); x = { about_path };").run = .ok (String.ofList output) ∧
      Spliced 0 [(.reference ⟨"f", 0, false⟩, none),
        (.call ⟨⟨"asset_path", 2, false⟩, 17, [⟨13, 16, "'a'", some "a"⟩]⟩, some "\"a\""),
        (.reference ⟨"x", 20, false⟩, none),
        (.reference ⟨"about_path", 26, true⟩, some "\"/about\"")]
        "f(asset_path('a')); x = { about_path };".toList output := by
  have parsed : parse helperNames "f(asset_path('a')); x = { about_path };".toList =
      .ok ⟨"f(asset_path('a')); x = { about_path };".toList,
        [⟨"f", 0, false⟩, ⟨"x", 20, false⟩, ⟨"about_path", 26, true⟩],
        [⟨⟨"asset_path", 2, false⟩, 17, [⟨13, 16, "'a'", some "a"⟩]⟩]⟩ := by
    decide +kernel
  have walk := @Node.Separate.walk_eq 0 39 [.reference ⟨"f", 0, false⟩,
    .call ⟨⟨"asset_path", 2, false⟩, 17, [⟨13, 16, "'a'", some "a"⟩]⟩,
    .reference ⟨"x", 20, false⟩, .reference ⟨"about_path", 26, true⟩]
    ⟨by decide, by decide, by decide, by decide, by decide, by decide, by decide, by decide,
      Nat.le_add_right 36 3⟩
  obtain ⟨-, -, outcome, ran, answers⟩ := injectWith_spliced (m := Id)
    [("about_path", "/about")] (fun request => pure request.name) parsed
  obtain ⟨-, output, done, spliced⟩ := answers ["a"] rfl
  refine ⟨output, ran.trans done, ?_⟩
  exact Eq.mp (congrArg (fun nodes =>
    Spliced 0 (answered [("about_path", "/about")] nodes ["a"]) _ output) walk) spliced

end Injection

end Folio.Script
