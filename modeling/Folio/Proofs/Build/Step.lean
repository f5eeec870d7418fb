import Folio.Proofs.Build.Journal

/-!
# Steps of a build

What a step of a build does to the journal and to what depends on it (`Ran`), and the steps that do
nothing to them (`Quiet`).
-/

namespace Folio.Build

variable {α β : Type}

/-! ## Inversion -/

theorem bind_ok_iff {x : Build α} {f : α → Build β} {s s'' : State} {b : β} :
    (x >>= f) s = .ok b s'' ↔ ∃ a s', x s = .ok a s' ∧ f a s' = .ok b s'' := by
  change EStateM.bind x f s = _ ↔ _
  unfold EStateM.bind
  cases x s with
  | ok a s' => simp
  | error e s' => simp

theorem bind_eq_of_eq {x y : Build α} {s : State} (same : x s = y s) (f : α → Build β) :
    (x >>= f) s = (y >>= f) s := by
  change EStateM.bind x f s = EStateM.bind y f s
  rw [EStateM.bind, EStateM.bind, same]

theorem bind_of_ok {x : Build α} {s t : State} {a : α} (ran : x s = .ok a t) (f : α → Build β) :
    (x >>= f) s = f a t := by
  change EStateM.bind x f s = _
  rw [EStateM.bind, ran]

theorem pure_ok_iff {a b : α} {s s' : State} :
    (pure a : Build α) s = .ok b s' ↔ a = b ∧ s = s' := by
  change EStateM.Result.ok a s = _ ↔ _
  rw [EStateM.Result.ok.injEq]

theorem get_ok_iff {s t s' : State} : (get : Build State) s = .ok t s' ↔ s = t ∧ s = s' := by
  change EStateM.Result.ok s s = _ ↔ _
  rw [EStateM.Result.ok.injEq]

theorem modify_ok_iff {f : State → State} {s s' : State} {u : Unit} :
    (modify f : Build Unit) s = .ok u s' ↔ f s = s' := by
  change EStateM.Result.ok () (f s) = _ ↔ _
  rw [EStateM.Result.ok.injEq]
  exact and_iff_right rfl

theorem throw_ne_ok {e : Abort} {s s' : State} {a : α} : (throw e : Build α) s ≠ .ok a s' := by
  change EStateM.Result.error e s ≠ _
  intro same
  cases same

theorem bind_error_iff {x : Build α} {f : α → Build β} {e : Abort} {s s' : State} :
    (x >>= f) s = .error e s' ↔
      x s = .error e s' ∨ ∃ a t, x s = .ok a t ∧ f a t = .error e s' := by
  change EStateM.bind x f s = _ ↔ _
  unfold EStateM.bind
  cases x s with
  | ok a t => simp
  | error e t => simp

theorem throw_error_iff {e e' : Abort} {s s' : State} :
    (throw e : Build α) s = .error e' s' ↔ e = e' ∧ s = s' := by
  change EStateM.Result.error e s = _ ↔ _
  rw [EStateM.Result.error.injEq]

theorem modify_ne_error {f : State → State} {e : Abort} {s s' : State} :
    (modify f : Build Unit) s ≠ .error e s' :=
  fun same => nomatch same

theorem onFiles_ok {p : Path} {x : FileTree.Op α} {a : α} {s t : State}
    (ran : onFiles p x s = .ok a t) : x s.files = .ok a t.files ∧ t = { s with files := t.files } := by
  unfold onFiles at ran
  split at ran
  · next found => cases ran; exact ⟨found, rfl⟩
  · cases ran
  · cases ran

theorem onFiles_stopped {p : Path} {x : FileTree.Op α} {e : Abort} {s t : State}
    (ran : onFiles p x s = .error e t) :
    ∃ problem files, x s.files = .error problem files ∧ t = { s with files } := by
  unfold onFiles at ran
  split at ran
  · cases ran
  · next found => cases ran; exact ⟨_, _, found, rfl⟩
  · next found => cases ran; exact ⟨_, _, found, rfl⟩

/-! ## Running -/

/-- Whether a step returns, with a result and a state that pass a test. -/
def passes (x : Build α) (s : State) (test : α → State → Bool) : Bool :=
  match x s with
  | .ok a s' => test a s'
  | .error _ _ => false

theorem exists_of_passes {x : Build α} {s : State} {test : α → State → Bool}
    (holds : passes x s test = true) : ∃ a s', x s = .ok a s' ∧ test a s' = true := by
  unfold passes at holds
  split at holds
  · next a s' ran => exact ⟨a, s', ran, holds⟩
  · cases holds

theorem of_passes {x : Build α} {s s' : State} {a : α} {test : α → State → Bool}
    (holds : passes x s test = true) (ran : x s = .ok a s') : test a s' = true := by
  rwa [passes, ran] at holds

/-- Whether a stage returns without failures, in a state that passes a test. -/
def succeeds (x : Build StageResult) (s : State) (test : State → Bool) : Bool :=
  passes x s fun r s' => r.failures.isEmpty && test s'

theorem exists_of_succeeds {x : Build StageResult} {s : State} {test : State → Bool}
    (holds : succeeds x s test = true) :
    ∃ r s', x s = .ok r s' ∧ r.failures = [] ∧ test s' = true := by
  obtain ⟨r, s', ran, passed⟩ := exists_of_passes holds
  obtain ⟨none, passed⟩ := Bool.and_eq_true_iff.1 passed
  exact ⟨r, s', ran, List.isEmpty_iff.1 none, passed⟩

/-- Whether a step stops in a state that passes a test. -/
def stops (x : Build α) (s : State) (test : State → Bool) : Bool :=
  match x s with
  | .ok _ _ => false
  | .error _ s' => test s'

theorem exists_of_stops {x : Build α} {s : State} {test : State → Bool}
    (holds : stops x s test = true) : ∃ e s', x s = .error e s' ∧ test s' = true := by
  unfold stops at holds
  split at holds
  · cases holds
  · next e s' ran => exact ⟨e, s', ran, holds⟩

/-! ## Quiet steps -/

/-- Steps that do nothing but to files, routes and log. -/
def Quiet (x : Build α) : Prop :=
  ∀ s a s', x s = .ok a s' → Alike s s'

theorem quiet_pure (a : α) : Quiet (pure a) := by
  intro s b s' ran
  obtain ⟨-, rfl⟩ := pure_ok_iff.1 ran
  exact Alike.refl s

theorem quiet_get : Quiet get := by
  intro s t s' ran
  obtain ⟨-, rfl⟩ := get_ok_iff.1 ran
  exact Alike.refl s

theorem Quiet.bind {x : Build α} {f : α → Build β} (first : Quiet x) (second : ∀ a, Quiet (f a)) :
    Quiet (x >>= f) := by
  intro s b s'' ran
  obtain ⟨a, s', ran, ran'⟩ := bind_ok_iff.1 ran
  exact (first s a s' ran).trans (second a s' b s'' ran')

theorem quiet_modify {f : State → State} (alike : ∀ s, Alike s (f s)) :
    Quiet (modify f : Build Unit) := by
  intro s u s' ran
  obtain rfl := modify_ok_iff.1 ran
  exact alike s

theorem quiet_onFiles (p : Path) (x : FileTree.Op α) : Quiet (onFiles p x) := by
  intro s a s' ran
  rw [(onFiles_ok ran).2]
  exact ⟨rfl, rfl, rfl, rfl, rfl⟩

theorem quiet_note (line : String) : Quiet (note line) :=
  quiet_modify fun _ => ⟨rfl, rfl, rfl, rfl, rfl⟩

theorem quiet_noteCompiled (path : String) : Quiet (noteCompiled path) :=
  quiet_modify fun _ => ⟨rfl, rfl, rfl, rfl, rfl⟩

theorem failWith_ok {r r' : StageResult} {f : Fault} {s s' : State}
    (ran : failWith r f s = .ok r' s') :
    Alike s s' ∧ r'.outputFiles = r.outputFiles ∧ r'.failures = r.failures ++ [f] := by
  obtain ⟨_, s₁, noted, ran⟩ := bind_ok_iff.1 ran
  obtain ⟨rfl, rfl⟩ := pure_ok_iff.1 ran
  exact ⟨quiet_note _ _ _ _ noted, rfl, rfl⟩

theorem exists_below? {p directory : Path} (below : p.isBelow directory = true) :
    ∃ segments, p.below? directory = some segments :=
  ⟨_, if_pos below⟩

theorem belowOf_ok {p directory : Path} {segments : List String} {s s' : State}
    (ran : belowOf p directory s = .ok segments s') :
    p.below? directory = some segments ∧ s = s' := by
  cases below : p.below? directory with
  | none =>
    rw [belowOf, below] at ran
    exact absurd ran throw_ne_ok
  | some found =>
    rw [belowOf, below] at ran
    obtain ⟨rfl, same⟩ := pure_ok_iff.1 ran
    exact ⟨rfl, same⟩

theorem realPathOf_ok {p q : Path} {s s' : State} (ran : realPathOf p s = .ok q s') :
    realPath s.files p = .ok q ∧ s = s' := by
  unfold realPathOf at ran
  split at ran
  · next found =>
    cases ran
    exact ⟨found, rfl⟩
  · cases ran

theorem logicalPathOf_ok {p : Path} {path : String} {s s' : State}
    (ran : logicalPathOf p s = .ok path s') : s.layout.logicalPath p = some path ∧ s = s' := by
  unfold logicalPathOf at ran
  obtain ⟨_, _, got, ran⟩ := bind_ok_iff.1 ran
  obtain ⟨rfl, rfl⟩ := get_ok_iff.1 got
  cases logical : s.layout.logicalPath p with
  | none =>
    rw [logical] at ran
    exact absurd ran throw_ne_ok
  | some found =>
    rw [logical] at ran
    obtain ⟨rfl, same⟩ := pure_ok_iff.1 ran
    exact ⟨rfl, same⟩

theorem quiet_belowOf (p directory : Path) : Quiet (belowOf p directory) :=
  fun _ _ _ ran => (belowOf_ok ran).2 ▸ Alike.refl _

theorem quiet_logicalPathOf (p : Path) : Quiet (logicalPathOf p) :=
  fun _ _ _ ran => (logicalPathOf_ok ran).2 ▸ Alike.refl _

theorem quiet_forM {lines : List String} : Quiet (lines.forM note) := by
  induction lines with
  | nil => exact quiet_pure ()
  | cons line lines ih => exact (quiet_note line).bind fun _ => ih

theorem quiet_rebuildRoutes : Quiet rebuildRoutes := by
  unfold rebuildRoutes
  refine quiet_get.bind fun s => ?_
  refine quiet_forM.bind fun _ => ?_
  refine Quiet.bind ?_ fun _ => quiet_pure _
  exact quiet_modify fun _ => ⟨rfl, rfl, rfl, rfl, rfl⟩

/-! ## Steps that publish and make -/

/-- A build has come from one state to another, told of by the newest events of the journal: all is
in order again, names were given in time in the sense of `R`, and what was not made in between is
recorded as it was, if at all. -/
structure Ran (R : Journal → Journal → Prop) (new : Journal) (s t : State) : Prop where
  base : t.base = s.base
  layout : t.layout = s.layout
  journal : t.journal = new ++ s.journal
  coherent : Coherent t
  given : Given R s.journal new
  kept : ∀ source files, t.dependencies.edges.lookup source = some files →
    new.last? source = none → s.dependencies.edges.lookup source = some files

namespace Ran

variable {R : Journal → Journal → Prop} {s t u : State}

theorem of_alike (coherent : Coherent s) (alike : Alike s t) : Ran R [] s t where
  base := alike.base
  layout := alike.layout
  journal := alike.journal
  coherent := alike.coherent coherent
  given := trivial
  kept _ _ found _ := alike.dependencies ▸ found

theorem trans {first second : Journal} (earlier : Ran R first s t) (later : Ran R second t u) :
    Ran R (second ++ first) s u where
  base := later.base.trans earlier.base
  layout := later.layout.trans earlier.layout
  journal := by rw [later.journal, earlier.journal, List.append_assoc]
  coherent := later.coherent
  given := (earlier.journal ▸ later.given).append earlier.given
  kept source files found unmade := by
    rw [Journal.last?_append, Option.or_eq_none_iff] at unmade
    exact earlier.kept source files (later.kept source files found unmade.1) unmade.2

theorem mono {S : Journal → Journal → Prop} (weaker : ∀ moment j, R moment j → S moment j)
    {new : Journal} (ran : Ran R new s t) : Ran S new s t :=
  { ran with given := ran.given.mono weaker }

theorem fileName {new : Journal} (ran : Ran R new s t) (path : String) :
    t.fileName path = s.fileName path := by
  simp only [State.fileName, ran.base, ran.layout]

theorem published (coherent : Coherent s) (path : String) (content : Bytes) :
    Ran R [.published path (s.store.physical path content)] s (s.published path content) where
  base := rfl
  layout := rfl
  journal := rfl
  coherent := coherent.published path content
  given := trivial
  kept _ _ found _ := found

theorem made (coherent : Coherent s) (kind : Kind) (source : Path) (files : List String)
    {names : Names} (given : Given R s.journal [.made kind (normalize s.base source.text) names]) :
    Ran R [.made kind (normalize s.base source.text) names] s (s.made kind source files names) where
  base := rfl
  layout := rfl
  journal := rfl
  coherent := coherent.made_source kind source files names
  given := given
  kept root files found unmade := by
    simp only [State.made, Dependencies.lookup_edges_record] at found
    simp only [Journal.last?] at unmade
    split at found
    · next same => simp [same] at unmade
    · exact found

/-- An asset is published and recorded with names that were given in time. -/
theorem published_made (coherent : Coherent s) (path : String) (content : Bytes) (source : Path)
    {names : Names} {moment : Journal} (resolved : Resolved moment names)
    (near : R moment s.journal) :
    Ran R [.made .asset (normalize s.base source.text) names,
        .published path (s.store.physical path content)] s
      ((s.published path content).made .asset source [] names) where
  base := rfl
  layout := rfl
  journal := rfl
  coherent := (coherent.published path content).made_source .asset source [] names
  given := ⟨trivial, moment, resolved, Or.inr ⟨_, _, [], rfl, near⟩⟩
  kept root files found unmade := by
    simp only [State.made, State.published, Dependencies.lookup_edges_record] at found
    simp only [Journal.last?] at unmade
    split at found
    · next same => simp [same] at unmade
    · exact found

/-- What is stale after some steps was given its name before them or looks up something that they
published. -/
theorem stale_before {new : Journal} (ran : Ran R new s t)
    (timely : ∀ moment j, R moment j → s.journal <:+ j → s.journal <:+ moment ∧ moment <:+ j)
    {source : String} {kind : Kind} {names : Names}
    (last : t.journal.last? source = some (kind, names)) {n : String × String} (member : n ∈ names)
    (stale : n.2 ≠ t.journal.resolve n.1) :
    (∃ physical, .published n.1 physical ∈ new) ∨
      new.last? source = none ∧ s.journal.last? source = some (kind, names) ∧
        n.2 ≠ s.journal.resolve n.1 := by
  rw [ran.journal] at last stale
  rw [Journal.last?_append] at last
  cases recent : new.last? source with
  | none =>
    rw [recent, Option.none_or] at last
    by_cases published : ∃ physical, .published n.1 physical ∈ new
    · exact Or.inl published
    · rw [Journal.resolve_append fun physical member => published ⟨physical, member⟩] at stale
      exact Or.inr ⟨rfl, last, stale⟩
  | some found =>
    rw [recent, Option.some_or] at last
    cases last
    obtain ⟨later, earlier, split, -⟩ := Journal.exists_of_last? recent
    obtain ⟨moment, resolved, near⟩ := (split ▸ ran.given).of_mem
    have within : s.journal <:+ moment ∧ moment <:+ earlier ++ s.journal := by
      rcases near with near | ⟨path, physical, before, rfl, near⟩
      · exact timely _ _ near (List.suffix_append _ _)
      · obtain ⟨start, stop⟩ := timely _ _ near (List.suffix_append _ _)
        exact ⟨start, stop.trans (List.suffix_cons _ _)⟩
    obtain ⟨⟨since, rfl⟩, until_, stop⟩ := within
    have until_eq : until_ ++ since = earlier := by
      rw [← List.append_assoc] at stop
      exact List.append_cancel_right stop
    subst until_eq
    rw [resolved n member] at stale
    have parts : new ++ s.journal =
        (later ++ .made kind source names :: until_) ++ (since ++ s.journal) := by
      rw [split]
      simp
    rw [parts] at stale
    obtain ⟨physical, published⟩ := Journal.exists_published (Ne.symm stale)
    refine Or.inl ⟨physical, ?_⟩
    rw [split]
    rcases List.mem_append.1 published with member | member
    · exact List.mem_append_left _ member
    · refine List.mem_append_right _ ?_
      rcases List.mem_cons.1 member with same | member
      · cases same
      · exact List.mem_cons_of_mem _ (List.mem_append_left _ member)

end Ran

end Folio.Build
