import Folio.Build.Rebuild
import Folio.Proofs.Build.Project

/-!
# What a batch of changes reaches

A source becomes stale when a path that it looked up is published anew. The rounds of a batch reach
whatever became stale in it: `remake_reaches` says so of pages and of scripts and stylesheets alike.
The rounds end because each that publishes something does so for a source that was not done before.
-/

namespace Folio.Build

open Dependencies

/-! ## Stale sources -/

theorem Ran.isStale {new : Journal} {s t : State} (ran : Ran Eq new s t) {kind : Kind}
    {source : String} {n : String × String} (stale : IsStale t kind source n) :
    (∃ physical, .published n.1 physical ∈ new) ∨
      new.last? source = none ∧ IsStale s kind source n := by
  obtain ⟨names, last, member⟩ := stale.given
  have timely : ∀ moment j : Journal, moment = j → s.journal <:+ j →
      s.journal <:+ moment ∧ moment <:+ j := by
    rintro moment _ rfl since
    exact ⟨since, List.suffix_refl _⟩
  rcases ran.stale_before timely last member stale.changed with published | ⟨unmade, last, changed⟩
  · exact Or.inl published
  · refine Or.inr ⟨unmade, ?_, ⟨names, last, member⟩, changed, ?_⟩
    · obtain ⟨files, found⟩ := Option.isSome_iff_exists.1 stale.recorded
      exact Option.isSome_iff_exists.2 ⟨files, ran.kept source files found unmade⟩
    · rw [← ran.fileName]
      exact stale.other

theorem mem_union {name : String} {a b : List String} : name ∈ union a b ↔ name ∈ a ∨ name ∈ b := by
  unfold union
  rw [List.mem_append, List.mem_filter, mem_distinct]
  simp only [Bool.not_eq_true', List.contains_eq_mem, decide_eq_false_iff_not]
  tauto

theorem mem_dependents {s : State} {files : List Path} {source : String} :
    source ∈ s.dependents files ↔
      (∃ p ∈ files, source ∈ s.dependencies.dependentsOf s.base p.text) ∧
        PathRoot.ofText source.toList ≠ .doubled := by
  have folded (found : List String) :
      source ∈ files.foldl
        (fun found p => union found (s.dependencies.dependentsOf s.base p.text)) found ↔
      source ∈ found ∨ ∃ p ∈ files, source ∈ s.dependencies.dependentsOf s.base p.text := by
    induction files generalizing found with
    | nil => simp
    | cons p files ih =>
      rw [List.foldl_cons, ih, mem_union]
      simp [or_assoc]
  rw [State.dependents, List.mem_filter, folded, decide_eq_true_eq]
  simp

theorem IsStale.mem_dependents {s : State} (coherent : Coherent s) {kind : Kind} {source : String}
    {n : String × String} (stale : IsStale s kind source n)
    (single : PathRoot.ofText source.toList ≠ .doubled) {files : List Path}
    (member : s.layout.outputFile n.1 ∈ files) : source ∈ s.dependents files := by
  obtain ⟨names, last, named⟩ := stale.given
  exact Build.mem_dependents.2
    ⟨⟨_, member, coherent.mem_dependentsOf stale.recorded last named stale.other⟩, single⟩

theorem isSome_of_mem_dependents {s : State} (coherent : Coherent s) {source : String}
    {files : List Path} (member : source ∈ s.dependents files) :
    (s.dependencies.edges.lookup source).isSome := by
  obtain ⟨⟨p, -, listed⟩, -⟩ := mem_dependents.1 member
  exact coherent.indexed.isSome_of_mem_dependentsOf listed

/-- Whatever is stale of a source looks up a pending file, or the source has been reached. -/
def Chased (kind : Kind) (source : String) (s : State) (pending : List Path)
    (reached : List String) : Prop :=
  ∀ n, IsStale s kind source n → s.layout.outputFile n.1 ∈ pending ∨ source ∈ reached

/-- What becomes stale in a stage looks up what the stage published. -/
theorem Staged.chased {records : Prop} {sources : List Path} {new : Journal} {r : StageResult}
    {s s' : State} (staged : Staged records Eq sources new r s s') {kind : Kind} {source : String}
    {reached : List String} (before : ∀ n, IsStale s kind source n → source ∈ reached) :
    Chased kind source s' r.outputFiles reached := by
  intro n stale
  rcases staged.ran.isStale stale with ⟨physical, published⟩ | ⟨-, stale⟩
  · rw [staged.ran.layout]
    exact Or.inl (staged.covered _ physical published)
  · exact Or.inr (before n stale)

/-! ## Rounds -/

/-- The sources that a round compiles. -/
def State.recompiled (s : State) (sources : List String) : List Path :=
  let stale := s.existing sources
  stale.filter (·.isBelow s.layout.scripts) ++
    (stale.filter (·.isBelow s.layout.styles)).filter (!Style.isPartial ·.name)

theorem recompile_ok {sources : List String} {s s' : State} {r : StageResult} (coherent : Coherent s)
    (ran : recompile sources s = .ok r s') :
    ∃ new, Staged True Eq (s.recompiled sources) new r s s' := by
  obtain ⟨_, _, got, ran⟩ := bind_ok_iff.1 ran
  obtain ⟨rfl, rfl⟩ := get_ok_iff.1 got
  obtain ⟨scripts, s₁, first, ran⟩ := bind_ok_iff.1 ran
  obtain ⟨styles, s₂, second, ran⟩ := bind_ok_iff.1 ran
  obtain ⟨rfl, rfl⟩ := pure_ok_iff.1 ran
  obtain ⟨new, one⟩ := compileScripts_ok coherent first
  obtain ⟨new', two⟩ := compileStyles_ok one.ran.coherent second
  exact ⟨new' ++ new, one.append two⟩

/-- The dependents that a round has to compile: those that are neither done nor to be rendered. -/
def State.outdated (s : State) (pending : List Path) (r : Rounds) : List String :=
  let roots := union r.roots
    ((s.dependents pending).filter fun d => (Path.ofText s.base d).isBelow s.layout.views)
  (s.dependents pending).filter fun d => !r.done.contains d && !roots.contains d

theorem mem_outdated {s : State} {pending : List Path} {r : Rounds} {name : String} :
    name ∈ s.outdated pending r ↔ name ∈ s.dependents pending ∧ name ∉ r.done ∧
      name ∉ union r.roots
        ((s.dependents pending).filter fun d => (Path.ofText s.base d).isBelow s.layout.views) := by
  unfold State.outdated
  simp

/-- What a round does. -/
structure Rounded (pending : List Path) (r : Rounds) (new : Journal) (made : StageResult)
    (r' : Rounds) (s s' : State) : Prop where
  staged : Staged True Eq (s.recompiled (s.outdated pending r)) new made s s'
  result : r'.result = r.result.append made
  done : r'.done = union r.done (s.dependents pending)
  roots : r'.roots = union r.roots
    ((s.dependents pending).filter fun d => (Path.ofText s.base d).isBelow s.layout.views)

/-- A round that returns has recompiled what is outdated. -/
theorem round_recompiles {pending pending' : List Path} {r r' : Rounds} {s s' : State}
    (ran : round pending r s = .ok (pending', r') s') :
    ∃ made, recompile (s.outdated pending r) s = .ok made s' ∧ made.outputFiles = pending' ∧
      r' = ⟨union r.done (s.dependents pending), union r.roots
        ((s.dependents pending).filter fun d => (Path.ofText s.base d).isBelow s.layout.views),
        r.result.append made⟩ := by
  obtain ⟨_, _, got, ran⟩ := bind_ok_iff.1 ran
  obtain ⟨rfl, rfl⟩ := get_ok_iff.1 got
  obtain ⟨made, s₁, recompiled, ran⟩ := bind_ok_iff.1 ran
  obtain ⟨same, rfl⟩ := pure_ok_iff.1 ran
  cases same
  exact ⟨made, recompiled, rfl, rfl⟩

theorem round_ok {pending pending' : List Path} {r r' : Rounds} {s s' : State}
    (coherent : Coherent s) (ran : round pending r s = .ok (pending', r') s') :
    ∃ new made, Rounded pending r new made r' s s' ∧ made.outputFiles = pending' := by
  obtain ⟨made, recompiled, published, rfl⟩ := round_recompiles ran
  obtain ⟨new, staged⟩ := recompile_ok coherent recompiled
  exact ⟨new, made, ⟨staged, rfl, rfl, rfl⟩, published⟩

/-- The name under which the source that a name leads to is recorded. -/
def plainName (base : Path) (name : String) : String :=
  normalize base (Path.ofText base name).text

/-- All recorded sources, and those that may be recorded by compiling them, are among some names. -/
structure Bounded (names : List String) (s : State) : Prop where
  recorded : ∀ source files, s.dependencies.edges.lookup source = some files → source ∈ names
  closed : ∀ name ∈ names, plainName s.base name ∈ names

theorem bounded_double {s : State} (coherent : Coherent s) :
    ∃ names, names.length = 2 * s.dependencies.edges.length ∧ Bounded names s := by
  let keys := Table.keys s.dependencies.edges
  refine ⟨keys ++ keys.map (plainName s.base), by simp [keys, Table.keys]; omega, ?_, ?_⟩
  · intro source files found
    exact List.mem_append_left _ (Table.mem_keys_iff.2 (by rw [found]; rfl))
  · intro name member
    rcases List.mem_append.1 member with member | member
    · exact List.mem_append_right _ (List.mem_map_of_mem member)
    · obtain ⟨key, listed, rfl⟩ := List.mem_map.1 member
      obtain ⟨files, found⟩ := Option.isSome_iff_exists.1 (Table.mem_keys_iff.1 listed)
      obtain ⟨p, proper, same⟩ := exists_proper s.base (coherent.named key files found)
      have plain : plainName s.base key = p.text := same
      rw [plain, plainName, proper.ofText_eq, proper.normalize_eq, ← plain]
      exact List.mem_append_right _ (List.mem_map_of_mem listed)

theorem mem_existing {s : State} {names : List String} {p : Path} :
    p ∈ s.existing names ↔ s.files.isFile p = true ∧ ∃ name ∈ names, Path.ofText s.base name = p := by
  rw [State.existing, Path.sort, mem_sortBy, List.mem_filter, List.mem_map, and_comm]

theorem mem_recompiled {s : State} {sources : List String} {p : Path}
    (member : p ∈ s.recompiled sources) : ∃ name ∈ sources, Path.ofText s.base name = p := by
  have listed : p ∈ s.existing sources := by
    rcases List.mem_append.1 member with member | member
    · exact (List.mem_filter.1 member).1
    · exact (List.mem_filter.1 (List.mem_filter.1 member).1).1
  exact (mem_existing.1 listed).2

theorem Rounded.bounded {names : List String} {pending : List Path} {r r' : Rounds} {new : Journal}
    {made : StageResult} {s s' : State} (rounded : Rounded pending r new made r' s s')
    (coherent : Coherent s) (bounded : Bounded names s) : Bounded names s' where
  recorded source files found := by
    cases last : new.last? source with
    | none => exact bounded.recorded source files (rounded.staged.ran.kept source files found last)
    | some entry =>
      obtain ⟨later, earlier, split, -⟩ := Journal.exists_of_last? last
      obtain ⟨-, -, p, listed, rfl⟩ :=
        rounded.staged.made _ _ _ (split ▸ List.mem_append_right _ (List.mem_cons_self ..))
      obtain ⟨name, stale, rfl⟩ := mem_recompiled listed
      have dependent := (List.mem_filter.1 stale).1
      obtain ⟨files, found⟩ := Option.isSome_iff_exists.1 (isSome_of_mem_dependents coherent dependent)
      exact bounded.closed name (bounded.recorded name files found)
  closed := by
    rw [rounded.staged.ran.base]
    exact bounded.closed

/-- How many of some names are not done. -/
def undone (names : List String) (r : Rounds) : Nat :=
  (names.filter (!r.done.contains ·)).length

theorem undone_lt {names : List String} {r r' : Rounds} (grows : ∀ name ∈ r.done, name ∈ r'.done)
    {name : String} (member : name ∈ names) (left : name ∉ r.done) (done : name ∈ r'.done) :
    undone names r' < undone names r := by
  have filtered : names.filter (!r'.done.contains ·) =
      (names.filter (!r.done.contains ·)).filter (!r'.done.contains ·) := by
    rw [List.filter_filter]
    refine List.filter_congr fun other _ => ?_
    by_cases finished : other ∈ r.done
    · simp [grows other finished]
    · simp [finished]
  unfold undone
  rw [filtered, List.length_filter_lt_length_iff_exists]
  exact ⟨name, List.mem_filter.2 ⟨member, by simpa using left⟩, by simpa using done⟩

/-- A round that publishes something finishes a source. -/
theorem Rounded.undone_lt {names : List String} {pending : List Path} {r r' : Rounds}
    {new : Journal} {made : StageResult} {s s' : State} (rounded : Rounded pending r new made r' s s')
    (coherent : Coherent s) (bounded : Bounded names s) (some : made.outputFiles ≠ []) :
    undone names r' < undone names r := by
  have stale : s.recompiled (s.outdated pending r) ≠ [] := by
    intro empty
    rw [rounded.staged.idle empty] at some
    exact some rfl
  obtain ⟨p, listed⟩ := List.exists_mem_of_ne_nil _ stale
  obtain ⟨name, outdated, -⟩ := mem_recompiled listed
  obtain ⟨dependent, left⟩ := mem_outdated.1 outdated
  obtain ⟨files, found⟩ := Option.isSome_iff_exists.1 (isSome_of_mem_dependents coherent dependent)
  refine Build.undone_lt ?_ (bounded.recorded name files found) left.1 ?_
  · exact fun _ done => rounded.done ▸ mem_union.2 (Or.inl done)
  · exact rounded.done ▸ mem_union.2 (Or.inr dependent)

/-- What each round keeps holds when the rounds end, and then nothing is pending. The bound is
large enough if it exceeds the number of names that are not done. -/
theorem rounds_induction {motive : List Path → Rounds → State → Prop} {names : List String}
    (step : ∀ {pending r pending' r' s s'}, Coherent s → pending ≠ [] →
      round pending r s = .ok (pending', r') s' → motive pending r s → motive pending' r' s')
    {bound : Nat} {pending : List Path} {r r' : Rounds} {s s' : State} (coherent : Coherent s)
    (bounded : Bounded names s) (enough : pending ≠ [] → undone names r < bound)
    (holds : motive pending r s) (ran : rounds bound pending r s = .ok r' s') :
    Coherent s' ∧ motive [] r' s' := by
  induction bound generalizing pending r s with
  | zero =>
    obtain ⟨rfl, rfl⟩ := pure_ok_iff.1 ran
    have ended : pending = [] := by
      by_contra some
      exact Nat.not_lt_zero _ (enough some)
    exact ⟨coherent, ended ▸ holds⟩
  | succ bound ih =>
    cases pending with
    | nil =>
      obtain ⟨rfl, rfl⟩ := pure_ok_iff.1 ran
      exact ⟨coherent, holds⟩
    | cons file pending =>
      obtain ⟨⟨pending', r₁⟩, s₁, went, ran⟩ := bind_ok_iff.1 ran
      have some := List.cons_ne_nil file pending
      have holds := step coherent some went holds
      obtain ⟨new, made, rounded, rfl⟩ := round_ok coherent went
      refine ih rounded.staged.ran.coherent (rounded.bounded coherent bounded) ?_ holds ran
      intro more
      have fewer := rounded.undone_lt coherent bounded more
      have := enough some
      omega

/-! ## Stages of a batch -/

theorem Coherent.forget {s : State} (coherent : Coherent s) (name : String) :
    Coherent { s with dependencies := s.dependencies.forget s.base name } where
  indexed := coherent.indexed.forget name
  resolves := coherent.resolves
  unrecorded := coherent.unrecorded
  named source files found := by
    rw [lookup_edges_forget] at found
    split at found
    · cases found
    · exact coherent.named source files found
  made source files found := by
    rw [lookup_edges_forget] at found
    split at found
    · cases found
    · exact coherent.made source files found

theorem affectedRoots_ok {templates : List Located} {roots roots' : List String} {s s' : State}
    (coherent : Coherent s) (ran : affectedRoots templates roots s = .ok roots' s') :
    Ran Eq [] s s' := by
  induction templates generalizing roots s with
  | nil =>
    obtain ⟨-, rfl⟩ := pure_ok_iff.1 ran
    exact .of_alike coherent (Alike.refl s)
  | cons change templates ih =>
    obtain ⟨kind, p⟩ := change
    obtain ⟨_, _, got, ran⟩ := bind_ok_iff.1 ran
    obtain ⟨rfl, rfl⟩ := get_ok_iff.1 got
    split at ran
    · obtain ⟨_, s₁, forgotten, ran⟩ := bind_ok_iff.1 ran
      obtain rfl := modify_ok_iff.1 forgotten
      have forgot : Ran Eq [] s
          { s with dependencies := s.dependencies.forget s.base p.text } :=
        { base := rfl, layout := rfl, journal := rfl, coherent := coherent.forget p.text
          given := trivial
          kept := fun source files found _ => by
            rw [lookup_edges_forget] at found
            split at found
            · cases found
            · exact found }
      exact forgot.trans (ih forgot.coherent ran)
    · obtain ⟨segments, s₁, below, ran⟩ := bind_ok_iff.1 ran
      obtain ⟨-, rfl⟩ := belowOf_ok below
      exact ih coherent ran

theorem quiet_locateChanges (changes : List Change) : Quiet (locateChanges changes) := by
  unfold locateChanges
  refine quiet_get.bind fun s => ?_
  generalize sortBy _ changes = sorted
  induction sorted with
  | nil => exact quiet_pure []
  | cons change sorted ih =>
    rw [List.mapM_cons]
    refine Quiet.bind ?_ fun _ => ih.bind fun _ => quiet_pure _
    refine Quiet.bind ?_ fun _ => quiet_pure _
    exact fun s p s' ran => (realPathOf_ok ran).2 ▸ Alike.refl s

theorem quiet_publishVendorOf (b : Batch) : Quiet b.publishVendor := by
  unfold Batch.publishVendor
  refine quiet_get.bind fun s => ?_
  split
  · exact quiet_publishVendor
  · exact quiet_pure _

theorem quiet_rebuildRoutesOf (b : Batch) : Quiet b.rebuildRoutes := by
  unfold Batch.rebuildRoutes
  split
  · exact quiet_pure false
  · refine quiet_rebuildRoutes.bind fun changed => ?_
    split
    · exact (quiet_note _).bind fun _ => quiet_pure _
    · exact quiet_pure _

theorem plan_ok {changes : List Change} {p : Plan} {s s' : State} (coherent : Coherent s)
    (ran : plan changes s = .ok p s') :
    ∃ new, Ran Eq new s s' ∧ Covered s.layout p.result.outputFiles new := by
  obtain ⟨_, _, got, ran⟩ := bind_ok_iff.1 ran
  obtain ⟨rfl, rfl⟩ := get_ok_iff.1 got
  obtain ⟨located, s₁, locating, ran⟩ := bind_ok_iff.1 ran
  have located_alike := quiet_locateChanges _ _ _ _ locating
  obtain ⟨images, s₂, imaged, ran⟩ := bind_ok_iff.1 ran
  obtain ⟨new, imaged⟩ := publishImages_ok (located_alike.coherent coherent) imaged
  have covered := located_alike.layout ▸ imaged.covered
  obtain ⟨vendor, s₃, vendored, ran⟩ := bind_ok_iff.1 ran
  have vendored := quiet_publishVendorOf _ _ _ _ vendored
  obtain ⟨routesChanged, s₄, routed, ran⟩ := bind_ok_iff.1 ran
  have routed := quiet_rebuildRoutesOf _ _ _ _ routed
  obtain ⟨_, _, got, ran⟩ := bind_ok_iff.1 ran
  obtain ⟨rfl, rfl⟩ := get_ok_iff.1 got
  obtain ⟨roots, s₅, affected, ran⟩ := bind_ok_iff.1 ran
  obtain ⟨rfl, rfl⟩ := pure_ok_iff.1 ran
  have alike := vendored.trans routed
  have published := (Ran.of_alike coherent located_alike).trans imaged.ran
  have settled := published.trans (.of_alike published.coherent alike)
  refine ⟨new, ?_, fun path physical member => List.mem_append_left _ (covered path physical member)⟩
  simpa using settled.trans (affectedRoots_ok settled.coherent affected)

theorem styles_filter (s : State) :
    (s.styles false).filter (!Style.isPartial ·.name) = s.styles false := by
  refine List.filter_eq_self.2 fun p member => ?_
  have kept := (List.mem_filter.1 member).2
  simpa using (Bool.and_eq_true_iff.1 kept).2

/-- What compiling the sources of a batch does, from `s` by way of `t`, where the stylesheets are
listed. -/
structure Compiling (p : Plan) (new : Journal) (made : StageResult) (r : Rounds) (s t s' : State) :
    Prop where
  scripts : ∃ x, compileScripts (some p.scripts) s = .ok x t
  staged : Staged True Eq (p.scripts ++ if p.styles then t.styles false else []) new made s s'
  outputFiles : r.result.outputFiles = p.result.outputFiles ++ made.outputFiles
  failures : r.result.failures = p.result.failures ++ made.failures
  roots : r.roots = p.roots
  done : ∀ name, name ∈ r.done ↔
    ∃ source ∈ p.scripts ++ (if p.styles then s'.styles false else []),
      normalize s'.base source.text = name

theorem Plan.compile_ok {p : Plan} {r : Rounds} {s s' : State} (coherent : Coherent s)
    (ran : p.compile s = .ok r s') : ∃ new made t, Compiling p new made r s t s' := by
  obtain ⟨scripts, t, first, ran⟩ := bind_ok_iff.1 ran
  obtain ⟨styles, s₂, second, ran⟩ := bind_ok_iff.1 ran
  obtain ⟨_, _, got, ran⟩ := bind_ok_iff.1 ran
  obtain ⟨rfl, rfl⟩ := get_ok_iff.1 got
  obtain ⟨rfl, rfl⟩ := pure_ok_iff.1 ran
  obtain ⟨new, one⟩ := compileScripts_ok coherent first
  obtain ⟨new', two⟩ := compileStyles_ok one.ran.coherent second
  have listed : ((if p.styles then none else some []).getD (t.styles false)).filter
      (!Style.isPartial ·.name) = if p.styles then t.styles false else [] := by
    split
    · exact styles_filter t
    · rfl
  rw [listed] at two
  refine ⟨new' ++ new, scripts.append styles, t, ⟨scripts, first⟩, one.append two, ?_, ?_, rfl,
    fun name => mem_distinct.trans List.mem_map⟩
  · simp [StageResult.append]
  · simp [StageResult.append]

/-! ## Moments of a batch -/

/-- The states in which a batch starts a round, with what is pending and what the rounds have come
to. -/
inductive RoundStart (changes : List Change) (s : State) : List Path → Rounds → State → Prop
  | first {p : Plan} {r : Rounds} {s₁ t : State} (planned : plan changes s = .ok p s₁)
      (compiled : p.compile s₁ = .ok r t) : RoundStart changes s r.result.outputFiles r t
  | next {pending pending' : List Path} {r r' : Rounds} {t t' : State}
      (start : RoundStart changes s pending r t) (some : pending ≠ [])
      (went : round pending r t = .ok (pending', r') t') : RoundStart changes s pending' r' t'

/-- The states in which a batch looks for sources: when the stylesheets are listed, when a round
starts and when a page is rendered. -/
inductive Moment (changes : List Change) (s : State) : State → Prop
  | sheets {p : Plan} {x : StageResult} {s₁ t : State} (planned : plan changes s = .ok p s₁)
      (compiled : compileScripts (some p.scripts) s₁ = .ok x t) : Moment changes s t
  | round {pending : List Path} {r : Rounds} {t : State}
      (start : RoundStart changes s pending r t) : Moment changes s t
  | page {r : Rounds} {before after : List Path} {root : Path} {x : StageResult} {s₁ t : State}
      (remade : remake changes s = .ok r s₁) (split : s₁.existing r.roots = before ++ root :: after)
      (rendered : compilePages before r.result s₁ = .ok x t) : Moment changes s t

/-- Whether the states in which rounds start pass a test and the rounds end before a bound. -/
def passesRounds (test : State → Bool) : Nat → List Path → Rounds → State → Bool
  | 0, _, _, _ => false
  | bound + 1, pending, r, s =>
    test s && (pending.isEmpty || passes (round pending r) s fun next s' =>
      passesRounds test bound next.1 next.2 s')

/-- Whether the states in which pages are rendered pass a test. -/
def passesPages (test : State → Bool) : List Path → StageResult → State → Bool
  | [], _, _ => true
  | root :: roots, r, s => test s && passes (addPage root r) s (passesPages test roots)

/-- Whether the moments of a batch pass a test. -/
def passesMoments (test : State → Bool) (bound : Nat) (changes : List Change) (s : State) : Bool :=
  (passes (plan changes) s fun p s₁ =>
    passes (compileScripts (some p.scripts)) s₁ (fun _ t => test t) &&
      passes p.compile s₁ fun r t => passesRounds test bound r.result.outputFiles r t) &&
    passes (remake changes) s fun r t => passesPages test (t.existing r.roots) r.result t

section Passing

variable {test : State → Bool} {bound : Nat} {changes : List Change} {s t : State}

theorem RoundStart.passesRounds {pending : List Path} {r : Rounds}
    (passed : passesMoments test bound changes s = true) (start : RoundStart changes s pending r t) :
    ∃ left, passesRounds test left pending r t = true := by
  induction start with
  | first planned compiled =>
    have passed := of_passes (Bool.and_eq_true_iff.1 passed).1 planned
    have started := of_passes (Bool.and_eq_true_iff.1 passed).2 compiled
    exact ⟨bound, started⟩
  | next start some went ih =>
    obtain ⟨left, passed⟩ := ih
    cases left with
    | zero => cases passed
    | succ left =>
      rcases Bool.or_eq_true_iff.1 (Bool.and_eq_true_iff.1 passed).2 with ended | passed
      · exact absurd (List.isEmpty_iff.1 ended) some
      · have started := of_passes passed went
        exact ⟨left, started⟩

theorem of_passesPages {before after : List Path} {root : Path} {r x : StageResult}
    (passed : passesPages test (before ++ root :: after) r s = true)
    (ran : compilePages before r s = .ok x t) : test t = true := by
  induction before generalizing r s with
  | nil =>
    obtain ⟨-, rfl⟩ := pure_ok_iff.1 ran
    exact (Bool.and_eq_true_iff.1 passed).1
  | cons first before ih =>
    obtain ⟨r₁, s₁, added, ran⟩ := bind_ok_iff.1 ran
    exact ih (of_passes (Bool.and_eq_true_iff.1 passed).2 added) ran

theorem Moment.passes (passed : passesMoments test bound changes s = true)
    (moment : Moment changes s t) : test t = true := by
  obtain ⟨planning, remaking⟩ := Bool.and_eq_true_iff.1 passed
  cases moment with
  | sheets planned compiled =>
    exact of_passes (Bool.and_eq_true_iff.1 (of_passes planning planned)).1 compiled
  | round start =>
    obtain ⟨left, passed⟩ := start.passesRounds passed
    cases left with
    | zero => cases passed
    | succ left => exact (Bool.and_eq_true_iff.1 passed).1
  | page remade split rendered =>
    exact of_passesPages (split ▸ of_passes remaking remade) rendered

end Passing

/-- What holds when the rounds of a batch start and is kept by each holds at their end, with nothing
pending. -/
theorem remake_induction {changes : List Change} {r : Rounds} {s t : State}
    {motive : List Path → Rounds → State → Prop} (coherent : Coherent s)
    (first : ∀ {p r s₁ t}, plan changes s = .ok p s₁ → p.compile s₁ = .ok r t →
      motive r.result.outputFiles r t)
    (step : ∀ {pending r pending' r' t t'}, RoundStart changes s pending r t → Coherent t →
      round pending r t = .ok (pending', r') t' → motive pending r t → motive pending' r' t')
    (ran : remake changes s = .ok r t) :
    RoundStart changes s [] r t ∧ Coherent t ∧ motive [] r t := by
  obtain ⟨p, s₁, planned, ran⟩ := bind_ok_iff.1 ran
  obtain ⟨r₁, s₂, compiled, ran⟩ := bind_ok_iff.1 ran
  obtain ⟨_, _, got, ran⟩ := bind_ok_iff.1 ran
  obtain ⟨rfl, rfl⟩ := get_ok_iff.1 got
  obtain ⟨new₁, one, -⟩ := plan_ok coherent planned
  obtain ⟨new₂, made, s', two⟩ := Plan.compile_ok one.coherent compiled
  have coherent₂ := two.staged.ran.coherent
  obtain ⟨names, double, bounded⟩ := bounded_double coherent₂
  have enough : undone names r₁ < 2 * s₂.dependencies.edges.length + 1 := by
    have := List.length_filter_le (!r₁.done.contains ·) names
    unfold undone
    omega
  obtain ⟨coherent, start, holds⟩ := rounds_induction
    (motive := fun pending r t => RoundStart changes s pending r t ∧ motive pending r t)
    (fun coherent some went holds =>
      ⟨.next holds.1 some went, step holds.1 coherent went holds.2⟩)
    coherent₂ bounded (fun _ => enough) ⟨.first planned compiled, first planned compiled⟩ ran
  exact ⟨start, coherent, holds⟩

/-- All that a batch publishes before its rounds is pending when they start. -/
theorem pending_of_isStale {changes : List Change} {p : Plan} {r : Rounds} {s s₁ t : State}
    (coherent : Coherent s) (planned : plan changes s = .ok p s₁) (compiled : p.compile s₁ = .ok r t)
    {kind : Kind} {source : String} {n : String × String} (stale : IsStale t kind source n) :
    s.layout.outputFile n.1 ∈ r.result.outputFiles ∨ IsStale s kind source n := by
  obtain ⟨new, one, covered⟩ := plan_ok coherent planned
  obtain ⟨new', made, s', two⟩ := Plan.compile_ok one.coherent compiled
  rcases (one.trans two.staged.ran).isStale stale with ⟨physical, published⟩ | ⟨-, stale⟩
  · refine Or.inl ?_
    rw [two.outputFiles]
    exact covered.append (one.layout ▸ two.staged.covered) _ physical published
  · exact Or.inr stale

theorem remake_ran {changes : List Change} {r : Rounds} {s t : State} (coherent : Coherent s)
    (ran : remake changes s = .ok r t) : ∃ new, Ran Eq new s t := by
  have first {p : Plan} {r : Rounds} {s₁ t : State} (planned : plan changes s = .ok p s₁)
      (compiled : p.compile s₁ = .ok r t) : ∃ new, Ran Eq new s t := by
    obtain ⟨new, one, -⟩ := plan_ok coherent planned
    obtain ⟨new', made, s', two⟩ := Plan.compile_ok one.coherent compiled
    exact ⟨new' ++ new, one.trans two.staged.ran⟩
  have step {pending : List Path} {r : Rounds} {pending' : List Path} {r' : Rounds} {t t' : State}
      (_ : RoundStart changes s pending r t) (coherent : Coherent t)
      (went : round pending r t = .ok (pending', r') t') (ran : ∃ new, Ran Eq new s t) :
      ∃ new, Ran Eq new s t' := by
    obtain ⟨new, ran⟩ := ran
    obtain ⟨new', made, rounded, -⟩ := round_ok coherent went
    exact ⟨new' ++ new, ran.trans rounded.staged.ran⟩
  obtain ⟨-, -, ran⟩ :=
    remake_induction (motive := fun _ _ t => ∃ new, Ran Eq new s t) coherent first step ran
  exact ran

/-- A batch renders a page that became stale in it. -/
theorem remake_pages {changes : List Change} {r : Rounds} {s t : State} {source : String}
    (coherent : Coherent s) (ran : remake changes s = .ok r t)
    (single : PathRoot.ofText source.toList ≠ .doubled)
    (views : (Path.ofText s.base source).isBelow s.layout.views = true)
    (fresh : ∀ n, ¬ IsStale s .page source n) {n : String × String}
    (stale : IsStale t .page source n) : source ∈ r.roots := by
  let motive (pending : List Path) (r : Rounds) (t : State) : Prop :=
    (∃ new, Ran Eq new s t) ∧ Chased .page source t pending r.roots
  have first {p : Plan} {r : Rounds} {s₁ t : State} (planned : plan changes s = .ok p s₁)
      (compiled : p.compile s₁ = .ok r t) : motive r.result.outputFiles r t := by
    obtain ⟨new, one, -⟩ := plan_ok coherent planned
    obtain ⟨new', made, s', two⟩ := Plan.compile_ok one.coherent compiled
    have ran := one.trans two.staged.ran
    refine ⟨⟨_, ran⟩, fun n stale => Or.inl ?_⟩
    rw [ran.layout]
    exact (pending_of_isStale coherent planned compiled stale).resolve_right (fresh n)
  have step {pending : List Path} {r : Rounds} {pending' : List Path} {r' : Rounds} {t t' : State}
      (_ : RoundStart changes s pending r t) (coherent : Coherent t)
      (went : round pending r t = .ok (pending', r') t') (holds : motive pending r t) :
      motive pending' r' t' := by
    obtain ⟨⟨new, ran⟩, chased⟩ := holds
    obtain ⟨new', made, rounded, rfl⟩ := round_ok coherent went
    refine ⟨⟨_, ran.trans rounded.staged.ran⟩, rounded.staged.chased fun n stale => ?_⟩
    rw [rounded.roots]
    refine mem_union.2 ((chased n stale).symm.imp_right fun member => ?_)
    refine List.mem_filter.2 ⟨stale.mem_dependents coherent single member, ?_⟩
    rw [ran.base, ran.layout]
    exact views
  obtain ⟨-, -, -, chased⟩ := remake_induction (motive := motive) coherent first step ran
  exact (chased n stale).resolve_left List.not_mem_nil

/-! ## Scripts and stylesheets -/

/-- Whether a path is one of a script or of a stylesheet with output of its own. -/
def State.IsAsset (s : State) (source : Path) : Prop :=
  source.isBelow s.layout.scripts = true ∨
    source.isBelow s.layout.styles = true ∧ Style.isPartial source.name = false

/-- At every moment of a batch a source is a file at its own place, and the stylesheets are those of
the start. -/
def Undisturbed (changes : List Change) (s : State) (source : Path) : Prop :=
  ∀ t, Moment changes s t → IsPlain t source ∧ t.styles false = s.styles false

theorem AllMade.last? {base : Path} {sources : List Path} {new : Journal}
    (all : AllMade base sources new) {source : Path} (member : source ∈ sources) :
    (new.last? (normalize base source.text)).isSome := by
  obtain ⟨names, made⟩ := all source member
  rw [Option.isSome_iff_ne_none]
  exact fun none => Journal.last?_eq_none_iff.1 none _ _ made

/-- What the sources of a batch come to without failures is made, if the compiled stylesheets are
those that are listed afterwards. -/
theorem Compiling.last? {p : Plan} {new : Journal} {made : StageResult} {r : Rounds}
    {s t s' : State} (compiling : Compiling p new made r s t s') (none : r.result.failures = [])
    (sheets : s'.styles false = t.styles false) {name : String} (member : name ∈ r.done) :
    (new.last? name).isSome := by
  obtain ⟨source, listed, same⟩ := (compiling.done name).1 member
  rw [sheets] at listed
  rw [compiling.staged.ran.base] at same
  rw [compiling.failures] at none
  have all := compiling.staged.complete trivial (List.append_eq_nil_iff.1 none).2
  exact same ▸ all.last? listed

/-- A source that a round finishes is made in it, unless it was finished before, or is taken for a
page. -/
theorem Rounded.last? {pending : List Path} {r r' : Rounds} {new : Journal} {made : StageResult}
    {s s' : State} (rounded : Rounded pending r new made r' s s') (none : made.failures = [])
    {source : Path} (proper : source.IsProper) (asset : s.IsAsset source)
    (file : s.files.isFile source = true) (done : source.text ∉ r.done)
    (root : source.text ∉ r'.roots) (member : source.text ∈ r'.done) :
    (new.last? source.text).isSome := by
  have dependent : source.text ∈ s.dependents pending :=
    (mem_union.1 (rounded.done ▸ member)).resolve_left done
  have outdated : source.text ∈ s.outdated pending r := by
    rw [rounded.roots] at root
    exact List.mem_filter.2 ⟨dependent, by simp [done, root]⟩
  have listed : source ∈ s.existing (s.outdated pending r) :=
    mem_existing.2 ⟨file, _, outdated, proper.ofText_eq s.base⟩
  have compiled : source ∈ s.recompiled (s.outdated pending r) := by
    refine List.mem_append.2 (asset.imp (fun script => ?_) fun style => ?_)
    · exact List.mem_filter.2 ⟨listed, script⟩
    · exact List.mem_filter.2 ⟨List.mem_filter.2 ⟨listed, style.1⟩, by simp [style.2]⟩
  rw [← proper.normalize_eq s.base]
  exact (rounded.staged.complete trivial none).last? compiled

/-- A script or stylesheet that a batch leaves stale was made in it, or is taken for a page. -/
theorem remake_assets {changes : List Change} {r : Rounds} {s t : State} {source : Path}
    (coherent : Coherent s) (ran : remake changes s = .ok r t) (none : r.result.failures = [])
    (proper : source.IsProper) (asset : s.IsAsset source)
    (undisturbed : Undisturbed changes s source) (fresh : ∀ n, ¬ IsStale s .asset source.text n) :
    ∃ new, Ran Eq new s t ∧ ∀ n, IsStale t .asset source.text n →
      source.text ∈ r.roots ∨ (new.last? source.text).isSome := by
  let motive (pending : List Path) (r : Rounds) (t : State) : Prop :=
    ∃ new, Ran Eq new s t ∧ Chased .asset source.text t pending r.done ∧
      (r.result.failures = [] → source.text ∈ r.done →
        source.text ∈ r.roots ∨ (new.last? source.text).isSome)
  have first {p : Plan} {r : Rounds} {s₁ t : State} (planned : plan changes s = .ok p s₁)
      (compiled : p.compile s₁ = .ok r t) : motive r.result.outputFiles r t := by
    obtain ⟨new, one, -⟩ := plan_ok coherent planned
    obtain ⟨new', made, s₂, two⟩ := Plan.compile_ok one.coherent compiled
    obtain ⟨x, scripts⟩ := two.scripts
    have ran := one.trans two.staged.ran
    refine ⟨_, ran, fun n stale => ?_, fun none member => Or.inr ?_⟩
    · rw [ran.layout]
      exact Or.inl ((pending_of_isStale coherent planned compiled stale).resolve_right (fresh n))
    · have sheets : t.styles false = s₂.styles false :=
        (undisturbed t (.round (.first planned compiled))).2.trans
          (undisturbed s₂ (.sheets planned scripts)).2.symm
      rw [Journal.last?_append, Option.isSome_or, two.last? none sheets member, Bool.true_or]
  have step {pending : List Path} {r : Rounds} {pending' : List Path} {r' : Rounds} {t t' : State}
      (start : RoundStart changes s pending r t) (coherent : Coherent t)
      (went : round pending r t = .ok (pending', r') t') (holds : motive pending r t) :
      motive pending' r' t' := by
    obtain ⟨new, ran, chased, made⟩ := holds
    obtain ⟨new', made', rounded, rfl⟩ := round_ok coherent went
    refine ⟨_, ran.trans rounded.staged.ran, rounded.staged.chased ?_, fun none member => ?_⟩
    · intro n stale
      rw [rounded.done]
      exact mem_union.2 ((chased n stale).symm.imp_right
        (stale.mem_dependents coherent proper.single))
    · rw [rounded.result] at none
      obtain ⟨none, none'⟩ := List.append_eq_nil_iff.1 none
      rw [Journal.last?_append, Option.isSome_or, Bool.or_eq_true]
      by_cases done : source.text ∈ r.done
      · refine (made none done).imp (fun root => ?_) Or.inr
        rw [rounded.roots]
        exact mem_union.2 (Or.inl root)
      · by_cases root : source.text ∈ r'.roots
        · exact Or.inl root
        · have asset : t.IsAsset source := by
            unfold State.IsAsset
            rwa [ran.layout]
          have file := (undisturbed t (.round start)).1.file
          exact Or.inr (Or.inl (rounded.last? none' proper asset file done root member))
  obtain ⟨-, -, new, ran, chased, made⟩ := remake_induction (motive := motive) coherent first step ran
  refine ⟨new, ran, fun n stale => made none ?_⟩
  exact (chased n stale).resolve_left List.not_mem_nil

theorem handle_ok {changes : List Change} {result : StageResult} {s s' : State}
    (ran : handle changes s = .ok result s') :
    ∃ r t, remake changes s = .ok r t ∧ compilePages (t.existing r.roots) r.result t = .ok result s' := by
  obtain ⟨r, t, remade, ran⟩ := bind_ok_iff.1 ran
  obtain ⟨_, _, got, ran⟩ := bind_ok_iff.1 ran
  obtain ⟨rfl, rfl⟩ := get_ok_iff.1 got
  exact ⟨r, t, remade, ran⟩

theorem handle_ran {changes : List Change} {result : StageResult} {s s' : State}
    (coherent : Coherent s) (ran : handle changes s = .ok result s') : ∃ new, Ran Eq new s s' := by
  obtain ⟨r, t, remade, rendered⟩ := handle_ok ran
  obtain ⟨new, remaking⟩ := remake_ran coherent remade
  obtain ⟨new', pages, -, -⟩ := compilePages_ok remaking.coherent rendered
  exact ⟨new' ++ new, remaking.trans pages.ran⟩

theorem Rendered.isStale {new : Journal} {s s' : State} (rendered : Rendered new s s')
    {kind : Kind} {source : String} {n : String × String} (stale : IsStale s' kind source n) :
    new.last? source = none ∧ IsStale s kind source n := by
  refine (rendered.ran.isStale stale).resolve_left ?_
  rintro ⟨physical, published⟩
  obtain ⟨_, _, same⟩ := rendered.pages _ published
  cases same

theorem not_isBelow_views {s : State} {source : Path} (asset : s.IsAsset source) :
    source.isBelow s.layout.views = false := by
  have apart {name : String} (below : source.isBelow (s.layout.assets.child name) = true) :
      source.isBelow s.layout.views = false := by
    rw [Bool.eq_false_iff]
    intro views
    have one := List.isPrefixOf_iff_prefix.1 below
    have two := List.isPrefixOf_iff_prefix.1 views
    have three := (List.prefix_append (s.layout.source.segments ++ ["assets"]) [name]).trans one
    have same := List.prefix_of_prefix_length_le three two (by simp [Layout.views, Path.child])
    simp [Layout.views, Path.child] at same
  rcases asset with script | ⟨style, -⟩
  · exact apart script
  · exact apart style

/-- Whether each path that is published with a source ranks higher than what the source looked up. -/
def Journal.isRanked (rank : String → Nat) : Journal → Bool
  | .made .asset _ names :: .published path physical :: rest =>
    names.all (fun n => rank n.1 < rank path) && isRanked rank (.published path physical :: rest)
  | _ :: rest => isRanked rank rest
  | [] => true

theorem not_isStale_of_all {s : State} {kind : Kind}
    (all : s.dependencies.edges.all (fun e => (s.staleNames kind e.1).isEmpty) = true)
    (source : String) (n : String × String) : ¬ IsStale s kind source n := by
  intro stale
  obtain ⟨e, listed, same⟩ := List.mem_map.1 (Table.mem_keys_iff.2 stale.recorded)
  have none := List.isEmpty_iff.1 (List.all_eq_true.1 all e listed)
  rw [same] at none
  exact List.not_mem_nil (none ▸ mem_staleNames.2 stale)

/-- A site of one script. -/
def oneScript : State :=
  productionSite [(["assets"], .directory), (["assets", "js"], .directory),
    (["assets", "js", "b.js"], textFile "1")]

/-- The script is modified and one is added that looks it up. -/
def State.grown (s : State) : State :=
  { s with
    files := (s.files.put firstScript (textFile "script_path('b.js')")).put secondScript
      (textFile "2") }

def growth : List Change :=
  [⟨.added, firstScript.text⟩, ⟨.modified, secondScript.text⟩]

/-- The script that is added is compiled before the one that it looks up. -/
theorem handle_growth : succeeds (buildProject []) oneScript (fun s =>
    s.grown.production &&
    s.grown.dependencies.edges.all (fun e => (s.grown.staleNames .asset e.1).isEmpty) &&
    passesMoments (fun t => decide (IsPlain t firstScript ∧ t.styles false = s.grown.styles false)) 9
      growth s.grown &&
    s.grown.layout == oneScript.layout &&
    succeeds (handle growth) s.grown fun s' =>
      s'.journal.isRanked (fun path => if path = "/assets/js/a.js" then 1 else 0) &&
      (s'.staleNames .asset firstScript.text).contains
        ("/assets/js/b.js", "/assets/js/b-c4ca4238a0.js")) = true := by
  decide +kernel

/-- A site whose only script is current, and what is left stale of a script that is added. -/
theorem exists_handle_growth : ∃ s r s' : _, s.production = true ∧ Coherent s ∧
    (∀ source n, ¬ IsStale s .asset source n) ∧ Undisturbed growth s firstScript ∧
    s.IsAsset firstScript ∧ handle growth s = .ok r s' ∧ r.failures = [] ∧
    s'.journal.isRanked (fun path => if path = "/assets/js/a.js" then 1 else 0) = true ∧
    IsStale s' .asset firstScript.text ("/assets/js/b.js", "/assets/js/b-c4ca4238a0.js") := by
  obtain ⟨_, s, built, -, passed⟩ := exists_of_succeeds handle_growth
  simp only [Bool.and_eq_true] at passed
  obtain ⟨⟨⟨⟨production, current⟩, moments⟩, layout⟩, handled⟩ := passed
  obtain ⟨r, s', ran, none, passed⟩ := exists_of_succeeds handled
  obtain ⟨ranked, stale⟩ := Bool.and_eq_true_iff.1 passed
  obtain ⟨_, _, _, built⟩ := buildProject_ok built
  refine ⟨s.grown, r, s', production, built.coherent.with_files _, not_isStale_of_all current, ?_,
    ?_, ran, none, ranked, mem_staleNames.1 (List.contains_iff_mem.1 stale)⟩
  · exact fun t moment => of_decide_eq_true (moment.passes moments)
  · unfold State.IsAsset
    rw [beq_iff_eq.1 layout]
    exact Or.inl rfl

end Folio.Build
