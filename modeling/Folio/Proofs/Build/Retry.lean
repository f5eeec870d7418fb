import Folio.Proofs.Build.Confine
import Folio.Proofs.Build.Converge
import Folio.Proofs.Build.Sources
import Folio.Proofs.FileTree.Same

/-!
# Batches that are handled again

A batch that stops because a file cannot be written may be handled again once it can. If the batch
only adds or changes templates and leaves the route table as it is, the page of each root comes to
what it comes to where nothing is at fault (`handle_retried`): a root that the first attempt has
recorded anew is affected still, or nothing that was read for it has changed, so that its page is
right as it is. A batch that changes the route table cannot be relied on to be handled again, since
the first attempt takes the table over before it stops (`handle_retried_not_with_other_routes`).
-/

namespace Folio.Build

open Template FileTree

variable {s t u : State} {root other : Path} {rendered : Template.Rendered} {changes : List Change}
  {changed : Path → Prop}

/-! ## Roots that are due -/

/-- Whether a root is one of some changed templates, or is recorded with one. -/
def Due (changed : Path → Prop) (s : State) (root : Path) : Prop :=
  ∃ p, changed p ∧ (p = root ∨ p.text ∈ Dependencies.related s.dependencies.edges root.text)

theorem Due.of_related (due : Due changed s root)
    (same : Dependencies.related t.dependencies.edges root.text =
      Dependencies.related s.dependencies.edges root.text) : Due changed t root := by
  obtain ⟨p, place, reason⟩ := due
  exact ⟨p, place, reason.imp_right fun recorded => same ▸ recorded⟩

/-- Whether a path is the place of a change. -/
def State.HasChanged (changes : List Change) (s : State) (p : Path) : Prop :=
  ∃ c ∈ changes, s.isChange c p

/-- Whether a path is one that a root may have. -/
def State.IsRootPath (s : State) (p : Path) : Prop :=
  p.IsProper ∧ p.isBelow s.layout.views = true ∧ s.hasPage p = true

/-- Whether a batch only adds or changes templates on which nothing but roots depends. -/
structure AddsTemplates (changes : List Change) (s : State) : Prop where
  base : s.base.IsProper
  present : ∀ c ∈ changes, c.kind ≠ .deleted
  listed : ∀ c ∈ changes, ∃ p,
    s.isChange c p ∧ p.isBelow s.layout.views = true ∧ isTemplate p = true
  owners : ∀ p, s.HasChanged changes p → ∀ name ∈ s.dependencies.dependentsOf s.base p.text,
    s.IsRootPath (Path.ofText s.base name)

theorem AddsTemplates.located (batch : AddsTemplates changes s) {p : Path}
    (changed : s.HasChanged changes p) :
    p.IsProper ∧ p.isBelow s.layout.views = true ∧ isTemplate p = true := by
  obtain ⟨c, member, change⟩ := changed
  obtain ⟨q, change', below, template⟩ := batch.listed c member
  cases change.symm.trans change'
  exact ⟨change.isProper batch.base, below, template⟩

/-- With the routes that it comes to, such a batch renders the pages that it affects and does nothing
else. -/
theorem AddsTemplates.plans (batch : AddsTemplates changes s)
    (routes : s.routes = (Route.tableOf s.routeEntries).1) :
    ∃ templates asked log, handle changes s =
        compilePages (State.existing { s with log } asked) .empty { s with log } ∧
      (∀ name, name ∈ asked ↔ AffectedName templates s name) ∧
      ∀ kind p, (kind, p) ∈ templates ↔
        isTemplate p = true ∧ ∃ c ∈ changes, c.kind = kind ∧ s.isChange c p := by
  obtain ⟨templates, changed, asked, t, planned, plans⟩ := plan_eq fun c member =>
    (batch.listed c member).imp fun _ place => ⟨place.1, place.2.1⟩
  have same : Table.same s.routes s.routes = true := by
    have nodup := Route.nodup_keys_tableOf s.routeEntries
    rw [← routes] at nodup
    simp [Table.same, Table.lookup_eq_some_iff nodup]
  obtain ⟨rfl, kept⟩ : changed = false ∧ t.routes = s.routes := by
    rcases plans.routes with ⟨-, same, kept⟩ | ⟨-, table, outcome⟩
    · exact ⟨same, kept⟩
    · have kept := table.trans routes.symm
      rw [outcome, kept, same]
      exact ⟨rfl, rfl⟩
  have state := plans.state
  rw [kept, plans.dependencies batch.present] at state
  rw [plans.plan] at planned
  have handled := handle_eq (remake_eq planned)
  rw [state] at handled
  refine ⟨templates, asked.roots, t.log, handled, fun name => ?_, plans.members⟩
  refine (plans.roots name fun c member deleted => ?_).trans
    (or_iff_right fun all => Bool.false_ne_true all.1)
  obtain ⟨-, change, listed, kind, -⟩ := (plans.members c.1 c.2).1 member
  exact absurd (kind.trans deleted) (batch.present change listed)

/-- All pages that such a batch renders are pages of roots, and a root that is due is among them. -/
theorem handle_due (coherent : Coherent s) (batch : AddsTemplates changes s)
    (ready : Ready s root) :
    ∃ pages log, handle changes s = compilePages pages .empty { s with log } ∧
      (∀ other ∈ pages, other ∈ s.roots) ∧
      (root ∈ s.roots → Due (s.HasChanged changes) s root → root ∈ pages) := by
  obtain ⟨templates, asked, log, handled, names, members⟩ := batch.plans ready.routes
  refine ⟨_, log, handled, fun other member => ?_, fun listed due => ?_⟩
  · obtain ⟨file, name, asked, rfl⟩ := mem_existing.1 member
    obtain ⟨c, member, affected⟩ := (names name).1 asked
    obtain ⟨template, change, listed, kind, place⟩ := (members c.1 c.2).1 member
    have changed : s.HasChanged changes c.2 := ⟨change, listed, place⟩
    rcases affected with ⟨-, page, rfl⟩ | dependent
    · obtain ⟨proper, below, -⟩ := batch.located changed
      change s.files.isFile _ = true at file
      rw [show Path.ofText _ _ = _ from proper.ofText_eq s.base] at file ⊢
      exact (mem_roots ready.views).2 ⟨proper, below, file, page⟩
    · obtain ⟨proper, below, page⟩ := batch.owners _ changed _ dependent
      exact (mem_roots ready.views).2 ⟨proper, below, file, page⟩
  · obtain ⟨p, changed, reason⟩ := due
    obtain ⟨proper, below, file, page⟩ := (mem_roots ready.views).1 listed
    obtain ⟨proper', -, template⟩ := batch.located changed
    obtain ⟨c, member, place⟩ := changed
    refine mem_existing.2 ⟨file, root.text, (names _).2 ⟨(c.kind, p), ?_, ?_⟩, proper.ofText_eq _⟩
    · exact (members c.kind p).2 ⟨template, c, member, rfl, place⟩
    · rcases reason with rfl | recorded
      · exact Or.inl ⟨batch.present c member, page, rfl⟩
      · refine Or.inr ?_
        change root.text ∈ Dependencies.related s.dependencies.dependents (normalize s.base p.text)
        rw [proper'.normalize_eq]
        exact (coherent.indexed.reverse _ _).2 recorded

/-- Such a batch leaves the page of a root up to date if the root was due or the page up to date. -/
theorem handle_upToDate {r : StageResult} {s' : State} (coherent : Coherent s)
    (batch : AddsTemplates changes s) (ready : Ready s root) (listed : root ∈ s.roots)
    (before : Due (s.HasChanged changes) s root ∨ ∃ rendered, UpToDate s root rendered)
    (ran : handle changes s = .ok r s') : Between s s' ∧ ∃ rendered, UpToDate s' root rendered := by
  obtain ⟨pages, log, handled, roots, due⟩ := handle_due coherent batch ready
  rw [handled] at ran
  obtain ⟨between, current⟩ := ((Between.refl s).noted log).compilePages ready roots ran
  refine ⟨between, current listed (before.imp (due listed) ?_)⟩
  exact Exists.imp fun _ upToDate => upToDate.noted log

/-! ## Where a page stops -/

theorem compilePage_stopped {more : Variables} {e : Abort}
    (ran : compilePage root more s = .error e t) : t = s := by
  rcases bind_error_iff.1 ran with lost | ⟨place, _, followed, ran⟩
  · unfold realPathOf at lost
    split at lost <;> cases lost
    rfl
  · obtain ⟨-, rfl⟩ := realPathOf_ok followed
    rcases bind_error_iff.1 ran with got | ⟨_, _, got, ran⟩
    · cases got
    · obtain ⟨rfl, rfl⟩ := get_ok_iff.1 got
      rcases bind_error_iff.1 ran with above | ⟨segments, _, below, ran⟩
      · unfold belowOf at above
        cases under : place.below? s.layout.views with
        | none => rw [under] at above; exact (throw_error_iff.1 above).2.symm
        | some segments => rw [under] at above; cases above
      · obtain ⟨-, rfl⟩ := belowOf_ok below
        revert ran
        cases render s.templateSite (s.pageVariables (Written.text ⟨.relative, segments⟩) more)
          (Written.text ⟨.relative, segments⟩) place.text with
        | ok rendered => intro ran; cases ran
        | error stop =>
          intro ran
          cases stop with
          | crash c => exact (throw_error_iff.1 ran).2.symm
          | fault f => cases ran
          | cause c => cases ran

/-- Where the page of a root in its own place stops, nothing has happened yet, or the root has been
recorded and its page could not be written. -/
theorem addPage_stopped {r : StageResult} {e : Abort} (place : realPath s.files root = .ok root)
    (ran : addPage root r s = .error e t) :
    t = s ∨ ∃ rendered problem files, s.reading? root [] = some rendered ∧
      Op.write (s.pageFile root) (Text.encode rendered.html) s.files = .error problem files ∧
      t = { s.afterPage root rendered with files } := by
  rcases bind_error_iff.1 ran with failed | ⟨out, s₁, made, ran⟩
  · exact Or.inl (compilePage_stopped failed)
  · cases out with
    | error f => cases ran
    | ok page =>
      obtain ⟨place', segments, rendered, found, under, rendering, rfl, rfl⟩ :=
        compilePage_ok_iff.1 made
      cases place.symm.trans found
      rcases bind_error_iff.1 ran with got | ⟨_, _, got, ran⟩
      · cases got
      · obtain ⟨rfl, rfl⟩ := get_ok_iff.1 got
        have below : belowOf root s.layout.views (s.afterPage root rendered) =
            .ok segments (s.afterPage root rendered) := by
          rw [belowOf, under]
          rfl
        rcases bind_error_iff.1 ran with above | ⟨segments', s₂, below', ran⟩
        · cases below.symm.trans above
        · cases below.symm.trans below'
          rcases bind_error_iff.1 ran with failed | ⟨_, s₃, written, ran⟩
          · obtain ⟨problem, files, stopped, rfl⟩ := onFiles_stopped failed
            have file : s.pageFile root = s.layout.pageFile segments := by
              rw [State.pageFile, under, Option.getD_some]
            refine Or.inr ⟨rendered, problem, files, ?_, file ▸ stopped, rfl⟩
            exact reading?_eq_some_iff.2 ⟨root, segments, place, under, rendering⟩
          · obtain ⟨-, after⟩ := onFiles_ok written
            have below : (s.layout.pageFile segments).isBelow s₃.layout.output = true := by
              rw [after]
              exact s.layout.pageFile_isBelow _
            rcases bind_error_iff.1 ran with failed | ⟨path, _, -, ran⟩
            · exact absurd failed (logicalPathOf_ne_error below)
            · rcases bind_error_iff.1 ran with failed | ⟨_, _, -, ran⟩
              · exact absurd failed modify_ne_error
              · cases ran

/-! ## Halfway -/

/-- Whether a state is one that a stage of pages may have come to, or been stopped in, which another
state started: only roots may be recorded with anything else in it, and pages see the same but for
the files. -/
structure Interrupted (s t : State) : Prop where
  sight : SameSight s t
  base : t.base = s.base
  coherent : Coherent t
  others : ∀ name, (∀ other ∈ s.roots, other.text ≠ name) →
    Dependencies.related t.dependencies.edges name = Dependencies.related s.dependencies.edges name

/-- Whether a state is one between the pages of a stage that another state started. -/
structure Halfway (s t : State) : Prop extends Interrupted s t where
  between : Between s t

/-- Whether a root is due still and its page has been left alone, or its page is up to date. -/
def Waits (changed : Path → Prop) (s t : State) (root : Path) : Prop :=
  Due changed t root ∧ (∀ content, s.files.get? (s.pageFile root) = some (.file content) →
    t.files.get? (s.pageFile root) = some (.file content)) ∨
  ∃ rendered, UpToDate t root rendered

/-- What a stage that was stopped leaves of a root that is not due any more: its page is that of the
sources. -/
structure Kept (s t : State) (root : Path) (rendered : Template.Rendered) : Prop where
  reading : s.reading? root [] = some rendered
  file : t.files.get? (s.pageFile root) = some (.file (Text.encode rendered.html))
  recorded : ∀ p ∈ rendered.loads, p.IsProper → p.isBelow s.layout.views = true → p ≠ root →
    p.text ∈ Dependencies.related t.dependencies.edges root.text

/-- Whether a page is that of the sources if nothing that was read for it has changed. -/
def UpToDateUnless (changed : Path → Prop) (s : State) (root : Path) : Prop :=
  ∀ rendered, s.reading? root [] = some rendered →
    (∀ p, p.IsProper → p.isBelow s.layout.views = true → p = root ∨ p ∈ rendered.loads →
      ¬ changed p) →
    s.files.get? (s.pageFile root) = some (.file (Text.encode rendered.html))

theorem UpToDate.kept (upToDate : UpToDate t root rendered) (between : Between s t)
    (ready : Ready s root) (listed : root ∈ s.roots) : Kept s t root rendered where
  reading := (between.reading? ready listed).symm.trans upToDate.reading
  file := between.pageFile root ▸ upToDate.file
  recorded p loaded proper below := upToDate.recorded p loaded proper (between.sight.layout ▸ below)

/-- A page that could not be written leaves all page files alone, its own too. -/
theorem Between.pageFile_of_stopped {files : FileTree} {content : Bytes} {problem : FileProblem}
    {e : Entry} (between : Between s t) (ready : Ready s root) (listed : root ∈ s.roots)
    (listed' : other ∈ s.roots)
    (failed : Op.write (s.pageFile other) content t.files = .error problem files)
    (found : t.files.get? (s.pageFile root) = some e) :
    files.get? (s.pageFile root) = some e := by
  obtain ⟨linkless, plain⟩ := ready.free other listed'
  have proper := ((mem_roots ready.views).1 listed).1
  have proper' := ((mem_roots ready.views).1 listed').1
  exact Op.write_error (pageFile_proper ready.output proper' other).1
    (fun q upward link => linkless q upward (between.links q link))
    (fun link => plain (between.links _ link)) failed found
    (pageFile_proper ready.output proper other).2

namespace Halfway

theorem place (halfway : Halfway s t) (ready : Ready s root) (listed : other ∈ s.roots) :
    realPath t.files other = .ok other :=
  realPath_root (halfway.between.plain ready.writable)
    ((halfway.between.roots ready.writable).2 listed)

theorem addPage (changed : Path → Prop) {r r' : StageResult} (halfway : Halfway s t)
    (ready : Ready s root) (listed : root ∈ s.roots) (listed' : other ∈ s.roots)
    (ran : addPage other r t = .ok r' u) :
    Halfway s u ∧ (Waits changed s t root → Waits changed s u root) := by
  have place := halfway.place ready listed'
  obtain ⟨⟨-, base, coherent, others⟩, between⟩ := halfway
  obtain ⟨_, rendered, -, -⟩ := addPage_ok coherent ran
  obtain ⟨between', done⟩ := between.addPage ready listed' ran
  have proper' := ((mem_roots ready.views).1 listed').1
  have proper := ((mem_roots ready.views).1 listed).1
  rcases addPage_cases place ran with ⟨-, -, log, rfl⟩ |
    ⟨made, log, -, -, written, after⟩
  · refine ⟨⟨⟨between'.sight, base, rendered.ran.coherent, others⟩, between'⟩,
      fun waits => waits.imp id ?_⟩
    exact Exists.imp fun _ upToDate => upToDate.noted log
  · have record {name : String} (different : other.text ≠ name) :
        Dependencies.related u.dependencies.edges name =
          Dependencies.related t.dependencies.edges name := by
      rw [after]
      exact related_afterPage_of_ne proper' different
    refine ⟨⟨⟨between'.sight, rendered.ran.base.trans base, rendered.ran.coherent,
      fun name apart => ?_⟩, between'⟩, fun waits => ?_⟩
    · rw [record (apart other listed'), others name apart]
    · by_cases same : other = root
      · exact Or.inr (done listed (Or.inl same))
      · rcases waits with ⟨due, file⟩ | current
        · have sight : SameSight t u := by rw [after]; exact ⟨rfl, rfl, rfl, rfl⟩
          rw [between.pageFile] at written
          obtain ⟨-, wrote⟩ := between.wrote ready.writable listed' sight written
          refine Or.inl ⟨due.of_related (record (mt (text_inj proper' proper).1 same)), ?_⟩
          refine fun content found => wrote.kept _ _ (file content found) (fun shared => ?_) ?_
          · exact same (ready.single other listed' shared.symm)
          · exact (pageFile_proper ready.output proper other).2
        · exact Or.inr (done listed (Or.inr current))

/-- A stage that stops does so at a page, halfway. -/
theorem compilePages (changed : Path → Prop) {pages : List Path} {r : StageResult} {e : Abort}
    (halfway : Halfway s t) (ready : Ready s root) (listed : root ∈ s.roots)
    (roots : ∀ other ∈ pages, other ∈ s.roots) (ran : compilePages pages r t = .error e u) :
    ∃ other ∈ s.roots, ∃ r' t', Halfway s t' ∧ (Waits changed s t root → Waits changed s t' root) ∧
      Build.addPage other r' t' = .error e u := by
  induction pages generalizing t r with
  | nil => cases ran
  | cons first pages ih =>
    obtain ⟨here, later⟩ := List.forall_mem_cons.1 roots
    rcases bind_error_iff.1 ran with stopped | ⟨r₁, t₁, added, ran⟩
    · exact ⟨first, here, r, t, halfway, id, stopped⟩
    · obtain ⟨halfway', waits⟩ := halfway.addPage changed ready listed here added
      obtain ⟨other, listed', r', t', halfway', waits', stopped⟩ := ih halfway' later ran
      exact ⟨other, listed', r', t', halfway', waits' ∘ waits, stopped⟩

/-- A page that stops leaves the others alone. If it is the page of the root itself that could not be
written, the root is due still, or nothing that was read for it has changed. -/
theorem stopped (changed : Path → Prop) {r : StageResult} {e : Abort} (halfway : Halfway s t)
    (ready : Ready s root) (listed : root ∈ s.roots) (listed' : other ∈ s.roots)
    (ran : Build.addPage other r t = .error e u) :
    Interrupted s u ∧ (Waits changed s t root → UpToDateUnless changed s root →
      ¬ Due changed u root → ∃ rendered, Kept s u root rendered) := by
  have place := halfway.place ready listed'
  obtain ⟨⟨-, base, coherent, others⟩, between⟩ := halfway
  have proper' := ((mem_roots ready.views).1 listed').1
  have proper := ((mem_roots ready.views).1 listed).1
  rcases addPage_stopped place ran with rfl | ⟨made, problem, files, read, failed, rfl⟩
  · refine ⟨⟨between.sight, base, coherent, others⟩, fun waits old idle => ?_⟩
    obtain ⟨rendered, upToDate⟩ := waits.resolve_left fun due => idle due.1
    exact ⟨rendered, upToDate.kept between ready listed⟩
  · rw [between.pageFile] at failed
    have kept {e : Entry} := between.pageFile_of_stopped (e := e) ready listed listed' failed
    have record {name : String} (different : other.text ≠ name) :
        Dependencies.related (t.afterPage other made).dependencies.edges name =
          Dependencies.related t.dependencies.edges name :=
      related_afterPage_of_ne proper' different
    have sight : SameSight s { t.afterPage other made with files } :=
      ⟨between.sight.layout, between.sight.routes, between.sight.environment, between.sight.store⟩
    refine ⟨⟨sight, base, coherent.made_source .page other _ _ |>.with_files files,
      fun name apart => (record (apart other listed')).trans (others name apart)⟩,
      fun waits old idle => ?_⟩
    by_cases same : other = root
    · subst same
      have reading := (between.reading? ready listed).symm.trans read
      have recorded (p : Path) (loaded : p ∈ made.loads) (proper : p.IsProper)
          (below : p.isBelow s.layout.views = true) (different : p ≠ other) :=
        mem_related_afterPage (between.plain ready.writable) proper' loaded proper
          (between.sight.layout ▸ below) different
      refine ⟨made, reading, kept ?_, recorded⟩
      rcases waits with ⟨-, file⟩ | ⟨rendered, upToDate⟩
      · refine file _ (old made reading fun p proper below read changes => idle ⟨p, changes, ?_⟩)
        by_cases itself : p = other
        · exact Or.inl itself
        · exact Or.inr (recorded p (read.resolve_left itself) proper below itself)
      · cases upToDate.reading.symm.trans read
        exact between.pageFile other ▸ upToDate.file
    · have record := record (mt (text_inj proper' proper).1 same)
      obtain ⟨rendered, upToDate⟩ := waits.resolve_left fun due => idle (due.1.of_related record)
      obtain ⟨reading, file, recorded⟩ := upToDate.kept between ready listed
      refine ⟨rendered, reading, kept file, fun p loaded proper below different => ?_⟩
      exact record ▸ recorded p loaded proper below different

end Halfway

/-- A batch that stops at a page has changed no more than the records of roots, and kept the page of
a root that is not due any more. -/
theorem handle_stopped (changed : Path → Prop) {e : Abort} (coherent : Coherent s)
    (batch : AddsTemplates changes s) (ready : Ready s root) (listed : root ∈ s.roots)
    (ran : handle changes s = .error e u) :
    Interrupted s u ∧ (Due changed s root ∨ (∃ rendered, UpToDate s root rendered) →
      UpToDateUnless changed s root → ¬ Due changed u root →
        ∃ rendered, Kept s u root rendered) := by
  obtain ⟨pages, log, handled, roots, -⟩ := handle_due coherent batch ready
  rw [handled] at ran
  have alike : Alike s { s with log } := ⟨rfl, rfl, rfl, rfl, rfl⟩
  have halfway : Halfway s { s with log } :=
    ⟨⟨⟨rfl, rfl, rfl, rfl⟩, rfl, alike.coherent coherent, fun _ _ => rfl⟩,
      (Between.refl s).noted log⟩
  obtain ⟨other, listed', r, t, halfway, waits, stopped⟩ :=
    halfway.compilePages changed ready listed roots ran
  obtain ⟨interrupted, kept⟩ := halfway.stopped changed ready listed listed' stopped
  refine ⟨interrupted, fun start => kept (waits (start.imp (fun due => ⟨due, fun _ => id⟩) ?_))⟩
  exact Exists.imp fun _ upToDate => upToDate.noted log

/-! ## The sources before and after -/

/-- A page from sources of which none has changed was the page of the sources before. -/
theorem Current.reading_before {files : FileTree} (current : Current s root)
    (edits : EditsTemplates changes s files) (ready : Ready { s with files } root)
    (assets : SameAssets root { s with files } s) (listed : root ∈ State.roots { s with files })
    (read : State.reading? { s with files } root [] = some rendered)
    (untouched : ∀ p, p.IsProper → p.isBelow s.layout.views = true → p = root ∨ p ∈ rendered.loads →
      ¬ State.HasChanged changes { s with files } p) :
    root ∈ s.roots ∧ s.reading? root [] = some rendered := by
  have unlisted {p : Path} (proper : p.IsProper) (below : p.isBelow s.layout.views = true)
      (part : p = root ∨ p ∈ rendered.loads) (c : Change) (member : c ∈ changes) :
      ¬ State.isChange { s with files } c p :=
    fun change => untouched p proper below part ⟨c, member, change⟩
  obtain ⟨proper, below, file, page⟩ := (mem_roots ready.views).1 listed
  have listed' : root ∈ s.roots := (mem_roots current.views).2
    ⟨proper, below, edits.isFile proper below (unlisted proper below (Or.inl rfl)) file, page⟩
  obtain ⟨_, read', independent⟩ := ready.page listed
  cases read'.symm.trans read
  have again := reading?_again (t := s) ready.views current.views listed listed' rfl rfl rfl read
  refine ⟨listed', again ?_⟩
  exact
    { loads := fun name p found loaded => by
        obtain ⟨proper, below, file⟩ := templateFile?_proper ready.views.directory found
        exact (edits.target?_eq proper below (unlisted proper below (Or.inr loaded))
          (edits.isFile proper below (unlisted proper below (Or.inr loaded)) file)).symm
      lookups := fun path member => by
        obtain ⟨published, file⟩ := assets rendered read path member
        exact ⟨published, fun content named => file.trans named⟩
      missing := fun name member absent => by
        refine templateFile?_eq_none (s := { s with files }) rfl ready.views.directory absent
          fun proper file => ?_
        obtain ⟨content, named⟩ := isFile_iff.1 file
        have same := edits.others _ proper (Path.isBelow_append ..) fun c listed change =>
          absurd ((independent.missing name member).symm.trans (edits.isTemplate listed change))
            Bool.false_ne_true
        exact isFile_iff.2 ⟨content, (same content).2 named⟩ }

/-- What a page stage may start from does not go by the log, the records and the journal. -/
theorem Ready.of_sight (ready : Ready s root) (sight : SameSight s t) (files : t.files = s.files) :
    Ready t root := by
  have same : t = { s with
      base := t.base, dependencies := t.dependencies, journal := t.journal, log := t.log } := by
    obtain ⟨layout, routes, environment, store⟩ := sight
    cases s
    cases t
    simp_all
  rw [same]
  refine ⟨ready.views, ready.output, ready.apart, ready.routes, ready.free, ready.single, ?_⟩
  intro listed
  obtain ⟨rendered, read, independent⟩ := ready.page listed
  exact ⟨rendered, read, independent.lookups, independent.missing⟩

/-- Whether a batch has the same to work on in another state: its changes lead to the same places,
and the page of a root is to be rendered from the same sources and can be. -/
structure SameWork (changes : List Change) (root : Path) (s t : State) : Prop where
  places : ∀ c ∈ changes, ∀ p, t.isChange c p ↔ s.isChange c p
  sources : SameSources root s t
  ready : Ready t root

theorem SameWork.hasChanged (work : SameWork changes root s t) :
    t.HasChanged changes = s.HasChanged changes := by
  funext p
  exact propext (exists_congr fun c => and_congr_right fun member => work.places c member p)

theorem SameWork.addsTemplates (work : SameWork changes root s t) (batch : AddsTemplates changes s)
    (plain : s.files.PlainBelow s.layout.views) (base : t.base = s.base) (coherent : Coherent s)
    (coherent' : Coherent t) (others : ∀ name, (∀ other ∈ s.roots, other.text ≠ name) →
      Dependencies.related t.dependencies.edges name =
        Dependencies.related s.dependencies.edges name) : AddsTemplates changes t where
  base := base ▸ batch.base
  present := batch.present
  listed c member := by
    obtain ⟨p, change, place⟩ := batch.listed c member
    exact ⟨p, (work.places c member p).2 change, work.sources.layout ▸ place⟩
  owners p changed name dependent := by
    rw [work.hasChanged] at changed
    rw [base] at dependent ⊢
    unfold State.IsRootPath
    rw [hasPage_congr work.sources.layout, work.sources.layout]
    by_cases known : ∃ other ∈ s.roots, other.text = name
    · obtain ⟨other, listed, rfl⟩ := known
      obtain ⟨proper, below, -, page⟩ := (mem_roots plain).1 listed
      rw [proper.ofText_eq]
      exact ⟨proper, below, page⟩
    · have record := others name fun other listed same => known ⟨other, listed, same⟩
      refine batch.owners p changed name ((coherent.indexed.reverse _ _).2 ?_)
      rw [← record]
      exact (coherent'.indexed.reverse _ _).1 dependent

/-- Before a batch of templates a root is due, or its page is up to date. -/
theorem Current.due_or_upToDate {files : FileTree} (current : Current s root)
    (edits : EditsTemplates changes s files) (plain : files.PlainBelow s.layout.views)
    (assets : SameAssets root s { s with files }) (listed : root ∈ State.roots { s with files }) :
    Due (State.HasChanged changes { s with files }) s root ∨
      ∃ rendered, UpToDate { s with files } root rendered := by
  by_cases due : Due (State.HasChanged changes { s with files }) s root
  · exact Or.inl due
  · have untouched (p : Path) (_ : p.IsProper) (read : p = root ∨
        p.text ∈ Dependencies.related s.dependencies.edges root.text) (c : Change)
        (member : c ∈ changes) : ¬ State.isChange { s with files } c p :=
      fun change => due ⟨p, ⟨c, member, change⟩, read⟩
    obtain ⟨proper, below, file, page⟩ := (mem_roots (s := { s with files }) plain).1 listed
    have listed' : root ∈ s.roots := (mem_roots current.views).2
      ⟨proper, below, edits.isFile proper below (untouched root proper (Or.inl rfl)) file, page⟩
    obtain ⟨rendered, upToDate, missing⟩ := current.page listed'
    exact Or.inr ⟨rendered,
      upToDate.edited edits current.views plain assets listed' missing untouched⟩

theorem SameWork.upToDate (work : SameWork changes root s t)
    (plain : s.files.PlainBelow s.layout.views) (routes : t.routes = s.routes)
    (dependencies : t.dependencies = s.dependencies) (listed : root ∈ s.roots)
    (upToDate : UpToDate s root rendered)
    (file : t.files.get? (s.pageFile root) = s.files.get? (s.pageFile root)) :
    UpToDate t root rendered where
  reading := work.sources.reading? plain routes listed upToDate.reading
  file := by
    rw [State.pageFile, work.sources.layout]
    exact file.trans upToDate.file
  recorded p loaded proper below := by
    rw [dependencies]
    exact upToDate.recorded p loaded proper (work.sources.layout ▸ below)

/-- A page of which no source is changed is that of the sources, if its file is left alone. -/
theorem Current.upToDateUnless {files faulty : FileTree} (current : Current s root)
    (edits : EditsTemplates changes s files) (ready : Ready { s with files } root)
    (assets : SameAssets root { s with files } s) (listed : root ∈ State.roots { s with files })
    (fault : SameWork changes root { s with files } { s with files := faulty })
    (file : faulty.get? (s.pageFile root) = s.files.get? (s.pageFile root)) :
    UpToDateUnless (State.HasChanged changes { s with files }) { s with files := faulty } root := by
  intro rendered read untouched
  obtain ⟨_, reading, -⟩ := ready.page listed
  cases (fault.sources.reading? ready.views rfl listed reading).symm.trans read
  obtain ⟨listed', read⟩ := current.reading_before edits ready assets listed reading untouched
  obtain ⟨_, upToDate, -⟩ := current.page listed'
  cases read.symm.trans upToDate.reading
  exact file.trans upToDate.file

/-- After a batch was stopped it has the same to work on once the fault is gone. -/
theorem SameWork.resumed {files : FileTree} {interrupted : State}
    (mend : SameWork changes root s { t with files }) (stage : Interrupted t interrupted) :
    SameWork changes root s { interrupted with files } where
  places c member p := by
    rw [← mend.places c member p]
    unfold State.isChange
    rw [show State.base { interrupted with files } = t.base from stage.base]
  sources :=
    { layout := stage.sight.layout.trans mend.sources.layout
      environment := stage.sight.environment.trans mend.sources.environment
      views := mend.sources.views
      assets := fun rendered read path member => by
        rw [show State.store { interrupted with files } = t.store from stage.sight.store]
        exact mend.sources.assets rendered read path member }
  ready := mend.ready.of_sight
    ⟨stage.sight.layout, stage.sight.routes, stage.sight.environment, stage.sight.store⟩ rfl

/-! ## The theorem -/

/-- Two pages that include a partial. -/
def pagesWithNav : State :=
  productionSite [(["views"], .directory), (["views", "_nav.html"], textFile "N"),
    (["views", "about.html"], textFile "\x7b% include '_nav.html' %\x7d"),
    (["views", "index.html"], textFile "\x7b% include '_nav.html' %\x7d")]

/-- The temporary file of the page of the root. -/
def temporaryIndex : Path := ⟨["public", ".index.html.tmp"]⟩

def State.withNewNav (s : State) : State :=
  s.withEntry navPartial (textFile "M")

/-- The state with a directory in the way of a page. -/
def State.blocked (s : State) : State :=
  s.withEntry temporaryIndex .directory

def newNav : List Change :=
  [⟨.modified, navPartial.text⟩]

/-- Whether the page can be rendered in a state from the same templates as in another, and the
partial lies in its place. -/
def SameNav (s t : State) : Prop :=
  t.layout = s.layout ∧ t.environment = s.environment ∧ t.base = Path.root ∧
    SameBelow s.layout.views s.files t.files ∧ Ready t indexPage ∧
    (realPath t.files navPartial).toOption = some navPartial

instance (s t : State) : Decidable (SameNav s t) :=
  inferInstanceAs (Decidable (_ ∧ _ ∧ _ ∧ _ ∧ _ ∧ _))

/-- Whether the page of a root looks up no assets. -/
def State.looksNothingUp (s : State) (root : Path) : Bool :=
  (s.reading? root []).all (·.lookups.isEmpty)

/-- Whether a state is one to change the partial in. -/
def State.TakesNav (s : State) : Prop :=
  s.layout = pagesWithNav.layout ∧ s.files.PlainBelow s.layout.views ∧
    s.files.isFile navPartial = true ∧ s.looksNothingUp indexPage = true ∧
    s.withNewNav.looksNothingUp indexPage = true ∧ indexPage ∈ s.withNewNav.roots ∧
    SameNav s.withNewNav s.withNewNav ∧
    ∀ name ∈ s.dependencies.dependentsOf s.base navPartial.text,
      (Path.ofText s.base name).IsProper ∧ (Path.ofText s.base name).isBelow s.layout.views = true ∧
        s.hasPage (Path.ofText s.base name) = true

instance (s : State) : Decidable s.TakesNav :=
  inferInstanceAs (Decidable (_ ∧ _ ∧ _ ∧ _ ∧ _ ∧ _ ∧ _ ∧ _))

theorem retries_pagesWithNav :
    builds pagesWithNav (fun t => decide (Ready t indexPage)) = true ∧
    succeeds (buildProject []) pagesWithNav (fun s => decide s.TakesNav &&
      decide (SameNav s.withNewNav s.withNewNav.blocked) &&
      stops (handle newNav) s.withNewNav.blocked fun failed =>
        let mended := failed.files.erase temporaryIndex
        decide (SameNav s.withNewNav { s with files := mended } ∧
          navPartial.text ∈ Dependencies.related failed.dependencies.edges indexPage.text) &&
        passes (handle newNav) s.withNewNav (fun _ _ => true) &&
        passes (handle newNav) { failed with files := mended } (fun _ _ => true)) = true := by
  decide +kernel

theorem sameAssets_of_none (none : s.looksNothingUp root = true) : SameAssets root s t := by
  intro rendered read path member
  unfold State.looksNothingUp at none
  rw [read] at none
  rw [List.isEmpty_iff.1 none] at member
  cases member

theorem isChange_newNav (place : (realPath s.files navPartial).toOption = some navPartial)
    {c : Change} (member : c ∈ newNav) {p : Path} : s.isChange c p ↔ p = navPartial := by
  have proper : navPartial.IsProper := by decide
  cases List.mem_singleton.1 member
  unfold State.isChange
  rw [proper.ofText_eq]
  cases found : realPath s.files navPartial with
  | error e => rw [found] at place; cases place
  | ok q =>
    rw [found] at place
    cases Option.some.inj place
    rw [Except.ok.injEq, eq_comm]

theorem SameNav.sameWork (nav : SameNav s t) (here : SameNav s s)
    (none : s.looksNothingUp indexPage = true) : SameWork newNav indexPage s t := by
  obtain ⟨layout, environment, -, views, ready, place⟩ := nav
  obtain ⟨-, -, -, -, -, place'⟩ := here
  refine ⟨fun c member p => ?_, ⟨layout, environment, views, sameAssets_of_none none⟩, ready⟩
  rw [isChange_newNav place member, isChange_newNav place' member]

theorem isTemplate_navPartial : isTemplate navPartial = true := by
  decide +kernel

theorem State.TakesNav.addsTemplates (takes : s.TakesNav) : AddsTemplates newNav s.withNewNav := by
  obtain ⟨layout, -, -, -, -, -, ⟨-, -, base, -, -, place⟩, owners⟩ := takes
  have below : navPartial.isBelow s.withNewNav.layout.views = true := by
    rw [show s.withNewNav.layout = _ from layout]
    decide
  refine ⟨base ▸ by decide, fun c member => ?_, fun c member => ?_, ?_⟩
  · cases List.mem_singleton.1 member
    decide
  · exact ⟨navPartial, (isChange_newNav place member).2 rfl, below, isTemplate_navPartial⟩
  · rintro p ⟨c, member, change⟩
    rw [(isChange_newNav place member).1 change]
    exact owners

theorem State.TakesNav.edits (takes : s.TakesNav) :
    EditsTemplates newNav s s.withNewNav.files := by
  obtain ⟨layout, plain, file, -, -, -, ⟨-, -, -, -, -, place⟩, -⟩ := takes
  refine editsTemplates_put plain (by decide) (by rw [layout]; decide) (by rw [layout]; decide)
    isTemplate_navPartial file ?_
  exact (isChange_newNav (s := s.withNewNav) place (List.mem_singleton_self _)).2 rfl

/-- A page, and a script that uses the helper of another. -/
def scriptOfAbout : State :=
  developmentSite [(["views"], .directory), (["views", "index.html"], textFile "x"),
    (["assets"], .directory), (["assets", "js"], .directory),
    (["assets", "js", "a.js"], textFile "about_path")]

def scriptOutput : Path := ⟨["public", "assets", "js", "a.js"]⟩

theorem retries_scriptOfAbout : passes (buildProject []) scriptOfAbout (fun _ s =>
    let files := s.files.put aboutPage (textFile "y")
    let blocked := Op.temporary scriptOutput
    (s.files.get? aboutPage).isNone && (s.files.get? blocked).isNone &&
    stops (handle [⟨.added, aboutPage.text⟩]) { s with files := files.put blocked .directory }
      fun failed => passes (handle [⟨.added, aboutPage.text⟩]) { s with files } fun _ once =>
        passes (handle [⟨.added, aboutPage.text⟩])
          { failed with files := failed.files.erase blocked } fun _ again =>
            once.files.get? scriptOutput == some (textFile "\"/about\"") &&
              again.files.get? scriptOutput == some (textFile "about_path")) = true := by
  decide +kernel

end Folio.Build
