import Folio.Proofs.Build.Origin

/-!
# What becomes of outputs

What a batch lists belongs to sources that are files when the batch comes (`tracks_handle`). No step
takes an output away because its source is gone: the outputs of a session belong to sources that are
files still, or that some batch has reported as deleted (`session_outputs`).
-/

namespace Folio.Build

open FileTree Dependencies

/-! ## Batches -/

/-- Whether a change is one of a path among the sources, at which a file lies unless it is deleted. -/
structure Change.Tells (l : Layout) (base : Path) (t : FileTree) (c : Change) : Prop where
  proper : (Path.ofText base c.path).IsProper
  inside : (Path.ofText base c.path).isBelow l.source = true
  there : c.kind ≠ .deleted → t.HasFile (Path.ofText base c.path)

/-- Whether what a batch makes again are sources, and the images are files. -/
structure Batch.Tells (l : Layout) (t : FileTree) (b : Batch) : Prop where
  templates : ∀ c ∈ b.templates, c.2.IsProper ∧ c.2.isBelow l.views = true
  scripts : ∀ p ∈ b.scripts, p.IsProper ∧ IsSource l p
  images : ∀ p ∈ b.images, p.IsProper ∧ IsSource l p ∧ t.HasFile p

/-- Whether the scripts of a plan are sources, its roots names of sources and its outputs those of
files. -/
structure Plan.Tells (l : Layout) (t : FileTree) (p : Plan) : Prop where
  scripts : ∀ source ∈ p.scripts, source.IsProper ∧ IsSource l source
  roots : ∀ name ∈ p.roots, IsSourceName l name
  result : Sourced l t p.result

structure Rounds.Tells (l : Layout) (t : FileTree) (r : Rounds) : Prop where
  roots : ∀ name ∈ r.roots, IsSourceName l name
  result : Sourced l t r.result

section Batches

variable {l : Layout} {base : Path} {production : Bool} {t₀ : FileTree} {s : State} {p : Path}
  {names : List String} {changes : List Change}

theorem Batch.Tells.add {b : Batch} (tells : b.Tells l t₀) (kind : ChangeKind) (proper : p.IsProper)
    (there : kind ≠ .deleted → t₀.HasFile p) : (b.add l kind p).Tells l t₀ := by
  have more {α : Type} {P : α → Prop} {items : List α} (each : ∀ a ∈ items, P a) {last : α}
      (new : P last) : ∀ a ∈ items ++ [last], P a := by
    intro a member
    rcases List.mem_append.1 member with member | member
    · exact each a member
    · exact List.mem_singleton.1 member ▸ new
  unfold Batch.add
  dsimp only
  split
  · next views =>
    split
    · exact { tells with templates := more tells.templates ⟨proper, views⟩ }
    · exact tells
  · split
    · next scripts =>
      split
      · next script =>
        have source := isSource_script scripts (by simpa using script.2.2) script.2.1
        exact { tells with scripts := more tells.scripts ⟨proper, source⟩ }
      · exact tells
    · split
      · exact { tells with }
      · split
        · next images =>
          split
          · next image =>
            have source := isSource_image images image.2
            exact { tells with images := more tells.images ⟨proper, source, there image.1⟩ }
          · exact tells
        · split
          · exact { tells with }
          · exact tells

theorem Batch.tells_ofChanges {located : List Located}
    (each : ∀ c ∈ located, c.2.IsProper ∧ (c.1 ≠ .deleted → t₀.HasFile c.2)) :
    (Batch.ofChanges l located).Tells l t₀ := by
  have onward (b : Batch) (tells : b.Tells l t₀) :
      (located.foldl (fun b c => b.add l c.1 c.2) b).Tells l t₀ := by
    induction located generalizing b with
    | nil => exact tells
    | cons c rest ih =>
      obtain ⟨⟨proper, there⟩, later⟩ := List.forall_mem_cons.1 each
      exact ih later _ (tells.add c.1 proper there)
  exact onward .empty ⟨fun _ member => (nomatch member), fun _ member => (nomatch member),
    fun _ member => (nomatch member)⟩

theorem Tracked.dependent (tracked : Tracked l base production t₀ s) {file name : String}
    (listed : name ∈ s.dependencies.dependentsOf s.base file) : IsSourceName l name := by
  have recorded := tracked.guarded.indexed.isSome_of_mem_dependentsOf listed
  obtain ⟨files, found⟩ := Option.isSome_iff_exists.1 recorded
  exact tracked.sources name files found

theorem Tracked.dependents (tracked : Tracked l base production t₀ s) {files : List Path}
    {name : String} (listed : name ∈ s.dependents files) : IsSourceName l name := by
  obtain ⟨⟨p, -, depends⟩, -⟩ := mem_dependents.1 listed
  exact tracked.dependent depends

theorem tracks_affectedRoots {templates : List Located} {roots : List String}
    (each : ∀ c ∈ templates, c.2.IsProper ∧ c.2.isBelow l.views = true)
    (named : ∀ name ∈ roots, IsSourceName l name) :
    Tracks l base production t₀ (fun roots => ∀ name ∈ roots, IsSourceName l name)
      (affectedRoots templates roots) := by
  induction templates generalizing roots with
  | nil => exact .pure named
  | cons c rest ih =>
    obtain ⟨kind, p⟩ := c
    obtain ⟨⟨proper, views⟩, later⟩ := List.forall_mem_cons.1 each
    refine .get_bind fun s tracked => ?_
    have more : ∀ name ∈ union roots (s.dependencies.dependentsOf s.base p.text),
        IsSourceName l name := by
      intro name member
      exact (mem_union.1 member).elim (named name) tracked.dependent
    dsimp only
    split
    · refine Keeps.bind (Q := fun _ => True) (.modify fun t tracked => ?_) fun _ _ =>
        ih later fun other member => more other (List.mem_filter.1 member).1
      exact ⟨tracked.guarded.forget p.text, named_forget tracked.sources p.text⟩
    · rw [tracked.guarded.layout]
      refine (keeps_belowOf fun _ _ _ => trivial).bind fun segments below => ih later fun other member => ?_
      split at member
      · next page =>
        rcases mem_union.1 member with member | member
        · exact more other member
        · obtain rfl := List.mem_singleton.1 member
          rw [isPage_text] at page
          refine ⟨p, proper, rfl, isSource_page views ?_⟩
          rw [below, Option.any_some]
          exact page
      · exact more other member

variable (settled : Settled l base production t₀)

include settled

theorem tracks_locateChanges (tell : ∀ c ∈ changes, c.Tells l base t₀) :
    Tracks l base production t₀
      (fun cs : List Located => ∀ c ∈ cs, c.2.IsProper ∧ (c.1 ≠ .deleted → t₀.HasFile c.2))
      (locateChanges changes) := by
  refine .get_bind fun s tracked => Keeps.mapM fun c member => ?_
  have tells := tell c (mem_sortBy.1 member)
  rw [tracked.guarded.base]
  refine (tracks_realPathOf settled tells.proper tells.inside).bind fun q same => .pure ?_
  subst same
  exact ⟨tells.proper, tells.there⟩

theorem tracks_plan (tell : ∀ c ∈ changes, c.Tells l base t₀) :
    Tracks l base production t₀ (Plan.Tells l t₀) (plan changes) := by
  refine .get_bind fun s tracked => ?_
  rw [tracked.guarded.layout]
  refine (tracks_locateChanges settled tell).bind fun located each => ?_
  have tells := Batch.tells_ofChanges (l := l) each
  have images : Tracks l base production t₀ (Sourced l t₀)
      (publishImages (some (Batch.ofChanges l located).images)) := tracks_runAll fun p listed =>
    have ⟨proper, source, there⟩ := tells.images p listed
    imageCraft_yields settled proper source there
  have vendor : Tracks l base production t₀ (Sourced l t₀)
      (Batch.ofChanges l located).publishVendor := by
    refine .get_bind fun s _ => ?_
    split
    · exact tracks_publishVendor settled.apart
    · exact .pure sourced_empty
  have routes : Tracks l base production t₀ (fun _ => True)
      (Batch.ofChanges l located).rebuildRoutes := by
    unfold Batch.rebuildRoutes
    split
    · exact .pure trivial
    · refine tracks_rebuildRoutes.bind fun changed _ => ?_
      split
      · exact (tracks_note _).bind fun _ _ => .pure trivial
      · exact .pure trivial
  refine images.bind fun images one => vendor.bind fun vendor two => routes.bind fun changed _ =>
    .get_bind fun s tracked => ?_
  refine (tracks_affectedRoots tells.templates fun name member => ?_).bind fun roots named =>
    .pure ⟨fun source member => ?_, named, one.append two⟩
  · split at member
    · obtain ⟨root, listed, rfl⟩ := List.mem_map.1 (mem_distinct.1 member)
      obtain ⟨proper, source, -⟩ := tracked.root settled listed
      exact ⟨root, proper, rfl, source⟩
    · cases member
  · dsimp only at member
    split at member
    · exact tracked.script settled member
    · exact tells.scripts source member

theorem tracks_compile {p : Plan} (tells : p.Tells l t₀) :
    Tracks l base production t₀ (Rounds.Tells l t₀) p.compile := by
  have scripts : Tracks l base production t₀ (Sourced l t₀) (compileScripts (some p.scripts)) :=
    tracks_runAll fun source listed =>
      have ⟨proper, source⟩ := tells.scripts source listed
      scriptCraft_yields settled proper source
  have styles : Tracks l base production t₀ (Sourced l t₀)
      (compileStyles (if p.styles then none else some [])) := by
    split
    · exact .get_bind fun s tracked => tracks_runAll fun p listed =>
        have ⟨proper, source⟩ := tracked.style settled (List.mem_filter.1 listed).1
        styleCraft_yields settled proper source
    · exact .get_bind fun s _ => tracks_runAll fun _ listed => nomatch listed
  exact scripts.bind fun scripts one => styles.bind fun styles two => .get_bind fun s _ =>
    .pure ⟨tells.roots, (tells.result.append one).append two⟩

omit settled in
/-- What exists of some names of sources. -/
theorem Tracked.existing (tracked : Tracked l base production t₀ s)
    (settled : Settled l base production t₀) {sources : List String}
    (named : ∀ name ∈ sources, IsSourceName l name) (listed : p ∈ s.existing sources) :
    p.IsProper ∧ IsSource l p ∧ t₀.HasFile p := by
  obtain ⟨file, name, member, rfl⟩ := mem_existing.1 listed
  obtain ⟨p, proper, rfl, made, makes⟩ := named name member
  rw [proper.ofText_eq] at file ⊢
  exact ⟨proper, ⟨made, makes⟩, tracked.hasFile settled proper makes.inside file⟩

theorem tracks_recompile {sources : List String}
    (named : ∀ name ∈ sources, IsSourceName l name) :
    Tracks l base production t₀ (Sourced l t₀) (recompile sources) := by
  refine .get_bind fun s tracked => ?_
  have scripts : Tracks l base production t₀ (Sourced l t₀)
      (compileScripts (some ((s.existing sources).filter (·.isBelow s.layout.scripts)))) :=
    tracks_runAll fun p listed =>
      have ⟨proper, source, _⟩ := tracked.existing settled named (List.mem_filter.1 listed).1
      scriptCraft_yields settled proper source
  have styles : Tracks l base production t₀ (Sourced l t₀)
      (compileStyles (some ((s.existing sources).filter (·.isBelow s.layout.styles)))) :=
    tracks_runAll fun p listed =>
      have stale := (List.mem_filter.1 (List.mem_filter.1 listed).1).1
      have ⟨proper, source, _⟩ := tracked.existing settled named stale
      styleCraft_yields settled proper source
  exact scripts.bind fun scripts one => styles.bind fun styles two => .pure (one.append two)

theorem tracks_round {pending : List Path} {r : Rounds} (tells : r.Tells l t₀) :
    Tracks l base production t₀ (fun out => out.2.Tells l t₀) (round pending r) := by
  refine .get_bind fun s tracked => ?_
  refine (tracks_recompile settled fun name member =>
    tracked.dependents (List.mem_filter.1 member).1).bind fun made more =>
      .pure ⟨fun name member => ?_, tells.result.append more⟩
  rcases mem_union.1 member with member | member
  · exact tells.roots name member
  · exact tracked.dependents (List.mem_filter.1 member).1

theorem tracks_rounds {bound : Nat} {pending : List Path} {r : Rounds} (tells : r.Tells l t₀) :
    Tracks l base production t₀ (Rounds.Tells l t₀) (rounds bound pending r) := by
  induction bound generalizing pending r with
  | zero => exact .pure tells
  | succ bound ih =>
    cases pending with
    | nil => exact .pure tells
    | cons p rest => exact (tracks_round settled tells).bind fun _ tells => ih tells

/-- All that a batch lists belongs to sources that are files when the batch comes. -/
theorem tracks_handle (tell : ∀ c ∈ changes, c.Tells l base t₀) :
    Tracks l base production t₀ (Sourced l t₀) (handle changes) := by
  have remade : Tracks l base production t₀ (Rounds.Tells l t₀) (remake changes) :=
    (tracks_plan settled tell).bind fun _ tells => (tracks_compile settled tells).bind
      fun _ tells => .get_bind fun _ _ => tracks_rounds settled tells
  exact remade.bind fun r tells => .get_bind fun s tracked =>
    tracks_compilePages settled tells.result fun root listed =>
      tracked.existing settled tells.roots listed

end Batches

/-! ## Sessions -/

/-- Whether a batch tells the truth about the files below the sources: each that it says is there is
there, and each that is gone it says is deleted. -/
structure Truthful (l : Layout) (base : Path) (changes : List Change) (before after : FileTree) :
    Prop where
  tell : ∀ c ∈ changes, c.Tells l base after
  gone : ∀ p, p.isBelow l.source = true → before.HasFile p → ¬ after.HasFile p →
    ∃ c ∈ changes, c.kind = .deleted ∧ Path.ofText base c.path = p

/-- The states between the steps of a session whose steps return without failures, with what the
steps have listed as outputs and the changes that were reported so far. Before each batch the sources
have changed as the batch tells. -/
inductive Account : State → List String → List Change → Prop
  | built {schedule : Schedule} {r : StageResult} {s t : State} (sound : Sound s)
      (plain : s.files.PlainBelow s.layout.source) (rooted : s.files.Rooted)
      (ran : buildProject schedule s = .ok r t) (none : r.failures = []) : Account t r.outputs []
  | batch {changes reported : List Change} {files : FileTree} {r : StageResult} {s t : State}
      {outputs : List String} (account : Account s outputs reported)
      (same : SameBelow s.layout.output s.files files) (sound : Sound { s with files })
      (plain : files.PlainBelow s.layout.source)
      (truthful : Truthful s.layout s.base changes s.files files)
      (ran : handle changes { s with files } = .ok r t) (none : r.failures = []) :
      Account t (outputs ++ r.outputs) (reported ++ changes)

section Accounts

variable {l : Layout} {base : Path} {production : Bool} {t₀ : FileTree} {s t : State}
  {outputs : List String} {reported : List Change}

theorem settled_of_sound (sound : Sound s) (plain : s.files.PlainBelow s.layout.source) :
    Settled s.layout s.base s.production s.files :=
  ⟨sound.apart, sound.settled, plain⟩

theorem Tracked.again (tracked : Tracked l base production t₀ s) :
    Tracked s.layout s.base s.production s.files s :=
  ⟨tracked.guarded.again, tracked.guarded.layout.symm ▸ tracked.sources⟩

/-- Whether an output is that of vendor files or belongs to a source that is a file or was reported
as deleted. -/
def IsAccounted (s : State) (reported : List Change) (path : String) : Prop :=
  s.layout.logicalPath s.layout.outputVendor = some path ∨ ∃ p, Belongs s.layout p path ∧
    (s.files.HasFile p ∨ ∃ c ∈ reported, c.kind = .deleted ∧ Path.ofText s.base c.path = p)

theorem Belongs.inside {p : Path} {path : String} (belongs : Belongs l p path) :
    p.isBelow l.source = true :=
  have ⟨_, makes, _⟩ := belongs
  makes.inside

theorem Tracked.hasFile_iff (tracked : Tracked l base production t₀ s) (apart : Apart l base)
    {p : Path} (inside : p.isBelow l.source = true) : s.files.HasFile p ↔ t₀.HasFile p := by
  unfold HasFile
  rw [tracked.guarded.get?_eq apart inside]

/-- What a step lists is accounted for when it is over. -/
theorem Sourced.accounted {r : StageResult} (sourced : Sourced s.layout s.files r)
    (tracked : Tracked s.layout s.base s.production s.files t) (apart : Apart s.layout s.base)
    (reported : List Change) : ∀ path ∈ r.outputs, IsAccounted t reported path := by
  intro path member
  unfold IsAccounted
  rw [tracked.guarded.layout]
  refine (sourced path member).imp_right fun ⟨p, belongs, there⟩ => ⟨p, belongs, Or.inl ?_⟩
  exact (tracked.hasFile_iff apart belongs.inside).2 there

/-- What is accounted for stays so when the sources change as a batch tells. -/
theorem IsAccounted.edited {files : FileTree} {changes : List Change} {path : String}
    (accounted : IsAccounted s reported path)
    (truthful : Truthful s.layout s.base changes s.files files) :
    IsAccounted { s with files } (reported ++ changes) path := by
  refine accounted.imp_right fun ⟨p, belongs, fate⟩ => ⟨p, belongs, ?_⟩
  rcases fate with there | ⟨c, member, deleted, place⟩
  · by_cases still : files.HasFile p
    · exact Or.inl still
    · obtain ⟨c, member, deleted, place⟩ := truthful.gone p belongs.inside there still
      exact Or.inr ⟨c, List.mem_append_right _ member, deleted, place⟩
  · exact Or.inr ⟨c, List.mem_append_left _ member, deleted, place⟩

/-- What is accounted for stays so in a step. -/
theorem IsAccounted.stepped {path : String} (accounted : IsAccounted s reported path)
    (tracked : Tracked s.layout s.base s.production s.files t) (apart : Apart s.layout s.base) :
    IsAccounted t reported path := by
  unfold IsAccounted
  rw [tracked.guarded.layout, tracked.guarded.base]
  refine accounted.imp_right fun ⟨p, belongs, fate⟩ => ⟨p, belongs, fate.imp_left fun there => ?_⟩
  exact (tracked.hasFile_iff apart belongs.inside).2 there

/-- A session keeps its site tracked and all its outputs accounted for. -/
theorem Account.tracked (account : Account s outputs reported) :
    Sound s ∧ s.files.PlainBelow s.layout.source ∧
      Tracked s.layout s.base s.production s.files s ∧
        ∀ path ∈ outputs, IsAccounted s reported path := by
  induction account with
  | @built schedule r s t sound plain rooted ran _ =>
    have settled := settled_of_sound sound plain
    rw [buildProject_eq_clean] at ran
    obtain ⟨_, u, cleaned, ran⟩ := bind_ok_iff.1 ran
    have guarded := sound.separate.clean_guarded rooted cleaned
    have start : Tracked s.layout s.base s.production s.files u := by
      refine ⟨guarded, fun source files found => ?_⟩
      rw [(of_clean cleaned).2] at found
      cases found
    obtain ⟨tracked, sourced⟩ := (tracks_buildCleaned settled schedule).ok start ran
    have layout := tracked.guarded.layout
    exact ⟨tracked.guarded.sound sound, layout.symm ▸ tracked.plain settled, tracked.again,
      sourced.accounted tracked sound.apart []⟩
  | @batch changes reported files r s t outputs account same sound plain truthful ran _ ih =>
    obtain ⟨-, -, before, accounted⟩ := ih
    have settled := settled_of_sound sound plain
    have start : Tracked s.layout s.base s.production files { s with files } :=
      ⟨before.guarded.edited same sound, before.sources⟩
    obtain ⟨tracked, sourced⟩ := (tracks_handle settled truthful.tell).ok start ran
    have layout := tracked.guarded.layout
    refine ⟨tracked.guarded.sound sound, layout.symm ▸ tracked.plain settled, tracked.again,
      fun path member => ?_⟩
    rcases List.mem_append.1 member with member | member
    · exact ((accounted path member).edited truthful).stepped tracked sound.apart
    · exact @Sourced.accounted { s with files } t r sourced tracked sound.apart _ path member

end Accounts

def aboutChange : Change :=
  ⟨.deleted, "/src/views/about.html"⟩

/-- Two pages in development. -/
def aboutSite : State :=
  developmentSite [(["views"], .directory), (["views", "about.html"], textFile "A"),
    (["views", "index.html"], textFile "I")]

/-- The site once the template of a page is gone. -/
def State.withoutAbout (s : State) : State :=
  { s with files := s.files.erase aboutPage }

/-- After the batch that reports the template as deleted the page is still there. -/
theorem deletes_about : passes (buildProject []) aboutSite (fun r s =>
    r.failures.isEmpty && r.outputs.contains "/about.html" && r.outputs.contains "/index.html" &&
    s.layout == aboutSite.layout && s.base == Path.root &&
    decide (SameBelow s.layout.output s.files s.withoutAbout.files) &&
    decide (Sound s.withoutAbout) && decide (s.withoutAbout.files.PlainBelow s.layout.source) &&
    passes (handle [aboutChange]) s.withoutAbout fun r t =>
      r.failures.isEmpty && t.layout == aboutSite.layout && t.base == Path.root &&
      (t.files.get? (t.layout.outputFile (t.store.resolve "/about.html"))).isSome &&
      decide (∀ e ∈ t.files.entries, e.1.isBelow t.layout.source = true → t.files.HasFile e.1 →
        e.1 = indexPage)) = true := by
  decide +kernel

theorem truthful_about {s : State} (layout : s.layout = aboutSite.layout)
    (base : s.base = Path.root) :
    Truthful s.layout s.base [aboutChange] s.files s.withoutAbout.files where
  tell c member := by
    obtain rfl := List.mem_singleton.1 member
    rw [layout, base]
    exact ⟨by decide, by decide, fun kind => absurd rfl kind⟩
  gone p _ before after := by
    refine ⟨_, List.mem_singleton_self _, rfl, ?_⟩
    rw [base]
    by_contra other
    refine after ?_
    have place : p ≠ aboutPage := fun same => other (same ▸ by decide)
    unfold HasFile
    rwa [State.withoutAbout, get?_erase_of_ne place]

theorem exists_account_about : ∃ (s : State) (outputs : List String),
    Account s outputs [aboutChange] ∧ "/about.html" ∈ outputs ∧ "/index.html" ∈ outputs ∧
    s.layout = aboutSite.layout ∧ s.base = Path.root ∧
    (s.files.get? (s.layout.outputFile (s.store.resolve "/about.html"))).isSome = true ∧
    ∀ p, p.isBelow s.layout.source = true → s.files.HasFile p → p = indexPage := by
  obtain ⟨r, s, built, passed⟩ := exists_of_passes deletes_about
  simp only [Bool.and_eq_true, beq_iff_eq, decide_eq_true_eq, List.isEmpty_iff,
    List.contains_iff_mem] at passed
  obtain ⟨⟨⟨⟨⟨⟨⟨⟨none, about⟩, index⟩, layout⟩, base⟩, same⟩, sound⟩, plain⟩, handled⟩ := passed
  obtain ⟨r', t, ran, passed⟩ := exists_of_passes handled
  simp only [Bool.and_eq_true, beq_iff_eq, decide_eq_true_eq, List.isEmpty_iff] at passed
  obtain ⟨⟨⟨⟨none', layout'⟩, base'⟩, there⟩, files⟩ := passed
  have account : Account s r.outputs [] :=
    .built (by decide +kernel) (by decide +kernel) (by decide +kernel) built none
  have account := account.batch same sound plain (truthful_about layout base) ran none'
  refine ⟨t, _, account, List.mem_append_left _ about, List.mem_append_left _ index, layout', base',
    there, fun p inside file => ?_⟩
  obtain ⟨content, found⟩ := file
  have below : p ≠ Path.root := by
    rintro rfl
    cases found
  obtain ⟨e, member⟩ := exists_mem_entries found below
  exact files _ member inside ⟨content, found⟩

end Folio.Build
