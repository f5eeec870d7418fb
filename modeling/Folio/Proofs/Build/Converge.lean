import Folio.Proofs.Build.Stage

/-!
# Batches of templates and full builds

A session that only adds and changes templates keeps all pages as a full build of the sources would
write them (`editing_converges`).
-/

namespace Folio.Build

open Template FileTree

variable {s t : State} {root : Path}

/-! ## Batches of templates -/

/-- Whether some files are those of a state after the templates that a batch lists, and no other files
below the views, were added or changed. The output is left alone. -/
structure EditsTemplates (changes : List Change) (s : State) (files : FileTree) : Prop where
  nonempty : changes ≠ []
  present : ∀ c ∈ changes, c.kind ≠ .deleted
  listed : ∀ c ∈ changes, ∃ p, State.isChange { s with files } c p ∧
    p.isBelow s.layout.views = true ∧ isTemplate p = true
  others : ∀ p, p.IsProper → p.isBelow s.layout.views = true →
    (∀ c ∈ changes, ¬ State.isChange { s with files } c p) →
      ∀ content, files.target? p = some (.file content) ↔ s.files.target? p = some (.file content)
  output : ∀ p, p.isBelow s.layout.output = true → files.get? p = s.files.get? p

/-- Whether what the page of a root looks up has the same published path, and the same is there, in
another state. -/
def SameAssets (root : Path) (s t : State) : Prop :=
  ∀ rendered, s.reading? root [] = some rendered → ∀ path ∈ rendered.lookups,
    t.store.get? path = s.store.get? path ∧
      t.files.target? (s.templateSite.publishedFile path) =
        s.files.target? (s.templateSite.publishedFile path)

namespace EditsTemplates

variable {changes : List Change} {files : FileTree} {p : Path}

theorem isBelowViews (edits : EditsTemplates changes s files) :
    AreBelowViews changes { s with files } := by
  intro c member
  obtain ⟨p, change, below, -⟩ := edits.listed c member
  exact ⟨p, change, below⟩

theorem isTemplate (edits : EditsTemplates changes s files) {c : Change} (member : c ∈ changes)
    (change : State.isChange { s with files } c p) : isTemplate p = true := by
  obtain ⟨q, change', -, template⟩ := edits.listed c member
  cases change.symm.trans change'
  exact template

/-- What is not listed is the file that it was. -/
theorem target?_eq (edits : EditsTemplates changes s files) (proper : p.IsProper)
    (below : p.isBelow s.layout.views = true)
    (unlisted : ∀ c ∈ changes, ¬ State.isChange { s with files } c p)
    (file : s.files.isFile p = true) : files.target? p = s.files.target? p := by
  obtain ⟨content, named⟩ := isFile_iff.1 file
  rw [named, (edits.others p proper below unlisted content).2 named]

theorem isFile (edits : EditsTemplates changes s files) (proper : p.IsProper)
    (below : p.isBelow s.layout.views = true)
    (unlisted : ∀ c ∈ changes, ¬ State.isChange { s with files } c p)
    (file : files.isFile p = true) : s.files.isFile p = true := by
  obtain ⟨content, named⟩ := isFile_iff.1 file
  exact isFile_iff.2 ⟨content, (edits.others p proper below unlisted content).1 named⟩

end EditsTemplates

/-- Whether the page of a root is that of its sources, and the route table too. -/
structure Current (s : State) (root : Path) : Prop where
  coherent : Coherent s
  views : s.files.PlainBelow s.layout.views
  routes : s.routes = (Route.tableOf s.routeEntries).1
  page : root ∈ s.roots → ∃ rendered, UpToDate s root rendered ∧
    ∀ name ∈ rendered.missing, isTemplate (s.layout.views.append (pathSegments name)) = false

theorem routeEntries_eq (layout : t.layout = s.layout) (plain : s.files.PlainBelow s.layout.views)
    (same : SameBelow s.layout.views s.files t.files) : t.routeEntries = s.routeEntries := by
  unfold State.routeEntries State.templates
  rw [layout, same.filesBelow plain]

/-- A stage brings a page that it renders up to date, and leaves one so that it does not. -/
theorem Ready.current {pages : List Path} {r r' : StageResult} (ready : Ready s root)
    (coherent : Coherent s) (listed : ∀ other ∈ pages, other ∈ s.roots)
    (ran : compilePages pages r s = .ok r' t)
    (before : root ∈ s.roots → root ∈ pages ∨ ∃ rendered, UpToDate s root rendered) :
    Current t root := by
  obtain ⟨between, current⟩ := (Between.refl s).compilePages ready listed ran
  obtain ⟨_, rendered, -⟩ := compilePages_ok coherent ran
  refine ⟨rendered.ran.coherent, between.plain ready.writable, ?_, fun member => ?_⟩
  · rw [between.sight.routes, ready.routes,
      routeEntries_eq between.sight.layout ready.views between.views]
  · have listed := (between.roots ready.writable).1 member
    obtain ⟨rendered, upToDate⟩ := current listed (before listed)
    obtain ⟨_, read, independent⟩ := ready.page listed
    cases read.symm.trans ((between.reading? ready listed).symm.trans upToDate.reading)
    refine ⟨rendered, upToDate, ?_⟩
    rw [between.sight.layout]
    exact independent.missing

/-- The roots that a batch plans to render are rendered. -/
theorem remake_roots {changes : List Change} {p : Plan} {r : Rounds} {s₁ : State}
    (coherent : Coherent s) (planned : plan changes s = .ok p s₁)
    (remade : remake changes s = .ok r t) : ∀ name ∈ p.roots, name ∈ r.roots := by
  have first {p' : Plan} {r : Rounds} {s₂ t : State} (planned' : plan changes s = .ok p' s₂)
      (compiled : p'.compile s₂ = .ok r t) : ∀ name ∈ p.roots, name ∈ r.roots := by
    cases planned.symm.trans planned'
    obtain ⟨_, one, -⟩ := plan_ok coherent planned
    obtain ⟨_, _, _, two⟩ := Plan.compile_ok one.coherent compiled
    exact fun name member => two.roots ▸ member
  have step {pending : List Path} {r : Rounds} {pending' : List Path} {r' : Rounds} {t t' : State}
      (_ : RoundStart changes s pending r t) (coherent : Coherent t)
      (went : round pending r t = .ok (pending', r') t')
      (kept : ∀ name ∈ p.roots, name ∈ r.roots) : ∀ name ∈ p.roots, name ∈ r'.roots := by
    obtain ⟨_, _, rounded, -⟩ := round_ok coherent went
    intro name member
    rw [rounded.roots]
    exact mem_union.2 (Or.inl (kept name member))
  exact (remake_induction (motive := fun _ r _ => ∀ name ∈ p.roots, name ∈ r.roots)
    coherent first step remade).2.2

/-- A page stays up to date if its root and the templates that it is recorded with are not changed. -/
theorem UpToDate.edited {changes : List Change} {files : FileTree} {rendered : Template.Rendered}
    (upToDate : UpToDate s root rendered) (edits : EditsTemplates changes s files)
    (plain : s.files.PlainBelow s.layout.views) (plain' : files.PlainBelow s.layout.views)
    (assets : SameAssets root s { s with files }) (listed : root ∈ s.roots)
    (missing : ∀ name ∈ rendered.missing,
      isTemplate (s.layout.views.append (pathSegments name)) = false)
    (untouched : ∀ p, p.IsProper →
      p = root ∨ p.text ∈ Dependencies.related s.dependencies.edges root.text →
        ∀ c ∈ changes, ¬ State.isChange { s with files } c p) :
    UpToDate { s with files } root rendered := by
  obtain ⟨proper, below, file, page⟩ := (mem_roots plain).1 listed
  have stays := edits.target?_eq proper below (untouched root proper (Or.inl rfl)) file
  have listed' : root ∈ State.roots { s with files } :=
    (mem_roots plain').2 ⟨proper, below, (isFile_congr stays).trans file, page⟩
  have stands : Stands s.templateSite files s.store.get? rendered.loads rendered.lookups
      rendered.missing :=
    { loads := fun name p found loaded => by
        obtain ⟨proper, below, file⟩ := templateFile?_proper plain.directory found
        refine edits.target?_eq proper below (untouched p proper ?_) file
        by_cases same : p = root
        · exact Or.inl same
        · exact Or.inr (upToDate.recorded p loaded proper below same)
      lookups := fun path member => ⟨rfl, fun content named =>
        (assets rendered upToDate.reading path member).2.trans named⟩
      missing := fun name member absent => by
        refine templateFile?_eq_none (s := s) (t := { s with files }) rfl plain.directory absent ?_
        refine fun proper => edits.isFile proper (Path.isBelow_append ..) fun c listed change => ?_
        exact absurd ((missing name member).symm.trans (edits.isTemplate listed change))
          Bool.false_ne_true }
  refine ⟨?_, ?_, upToDate.recorded⟩
  · exact reading?_again plain plain' listed listed' rfl rfl rfl upToDate.reading stands
  · exact (edits.output _ (pageFile_isBelow s root)).trans upToDate.file

/-- A batch of templates leaves a page up to date, if it does not merely list the routes in another
order, leaves the views and the assets of the page alone and renders nothing but roots. -/
theorem Current.handle {changes : List Change} {files : FileTree} {r : Rounds}
    {result : StageResult} {s' : State} (current : Current s root)
    (edits : EditsTemplates changes s files) (assets : SameAssets root s { s with files })
    (order : let table := (Route.tableOf (State.routeEntries { s with files })).1
      Table.same table s.routes = true → table = s.routes)
    (remade : remake changes { s with files } = .ok r t) (ready : Ready t root)
    (roots : ∀ other ∈ t.existing r.roots, other ∈ t.roots)
    (same : SameBelow s.layout.views files t.files)
    (ran : handle changes { s with files } = .ok result s') : Current s' root := by
  have coherent := current.coherent.with_files files
  obtain ⟨templates, changed, p, s₂, planned, plans⟩ := plan_eq edits.isBelowViews
  obtain ⟨_, remaking⟩ := remake_ran coherent remade
  have layout : t.layout = s.layout := remaking.layout
  have plain' : files.PlainBelow s.layout.views := same.symm.plainBelow (layout ▸ ready.views)
  rw [handle_eq remade] at ran
  refine ready.current remaking.coherent roots ran fun member => ?_
  obtain ⟨proper, below, file, page⟩ := (mem_roots ready.views).1 member
  rw [hasPage_congr layout] at page
  by_cases reached : root.text ∈ r.roots
  · exact Or.inl (mem_existing.2 ⟨file, root.text, reached, proper.ofText_eq _⟩)
  · -- Such a root is not affected, and the batch has made nothing before its pages.
    have unaffected := mt (remake_roots coherent planned remade root.text) reached
    rw [plans.roots root.text fun c listed deleted => ?_, not_or] at unaffected
    · obtain ⟨all, unaffected⟩ := unaffected
      have page₁ : root ∈ State.roots { s with files } := by
        refine (mem_roots plain').2 ⟨proper, layout ▸ below, ?_, page⟩
        rwa [← same.isFile plain' proper (layout ▸ below)]
      obtain rfl : changed = false :=
        Bool.eq_false_iff.2 fun changed => all ⟨changed, List.mem_map_of_mem page₁⟩
      have untouched (p : Path) (proper' : p.IsProper) (read : p = root ∨
          p.text ∈ Dependencies.related s.dependencies.edges root.text) :
          ∀ c ∈ changes, ¬ State.isChange { s with files } c p := by
        intro c listed change
        have member : (c.kind, p) ∈ templates :=
          (plans.members _ _).2 ⟨edits.isTemplate listed change, c, listed, rfl, change⟩
        refine unaffected ⟨_, member, read.imp (fun itself => ?_) fun dependency => ?_⟩
        · subst itself
          exact ⟨edits.present c listed, page, rfl⟩
        · change root.text ∈ Dependencies.related s.dependencies.dependents (normalize s.base p.text)
          rw [proper'.normalize_eq]
          exact (current.coherent.indexed.reverse _ _).2 dependency
      have listed : root ∈ s.roots := by
        have below : root.isBelow s.layout.views = true := layout ▸ below
        refine (mem_roots current.views).2 ⟨proper, below, ?_, page⟩
        refine edits.isFile proper below (untouched root proper (Or.inl rfl)) ?_
        rwa [← same.isFile plain' proper below]
      obtain ⟨rendered, upToDate, missing⟩ := current.page listed
      have edited := upToDate.edited edits current.views plain' assets listed missing untouched
      have routes : s₂.routes = s.routes := by
        rcases plans.routes with ⟨-, -, routes⟩ | ⟨-, routes, unchanged⟩
        · exact routes
        · rw [routes] at unchanged ⊢
          exact order (by simpa using unchanged.symm)
      rw [plans.plan] at planned
      cases (remake_eq planned).symm.trans remade
      have state := plans.state
      rw [routes, plans.dependencies edits.present] at state
      rw [state]
      exact Or.inr ⟨rendered, edited.reading, edited.file, edited.recorded⟩
    · obtain ⟨-, change, listed, kind, -⟩ := (plans.members c.1 c.2).1 listed
      exact absurd (kind.trans deleted) (edits.present change listed)

/-! ## Full builds -/

/-- A full build ends with the pages of all roots. -/
theorem buildProject_pages {schedule : Schedule} {r : StageResult} {s s' : State}
    (ran : buildProject schedule s = .ok r s') :
    ∃ assets pages t u log, buildAssets schedule s = .ok assets t ∧
      compilePages t.roots .empty t = .ok pages u ∧ s' = { u with log } := by
  obtain ⟨_, s₁, cleaned, ran⟩ := bind_ok_iff.1 ran
  obtain ⟨changed, s₂, routed, ran⟩ := bind_ok_iff.1 ran
  obtain ⟨images, s₃, imaged, ran⟩ := bind_ok_iff.1 ran
  obtain ⟨vendor, s₄, vendored, ran⟩ := bind_ok_iff.1 ran
  obtain ⟨assets, t, compiled, ran⟩ := bind_ok_iff.1 ran
  obtain ⟨pages, u, rendered, ran⟩ := bind_ok_iff.1 ran
  obtain ⟨_, _, got, rendered⟩ := bind_ok_iff.1 rendered
  obtain ⟨rfl, rfl⟩ := get_ok_iff.1 got
  have prepared : buildAssets schedule s = .ok ((images.append vendor).append assets) t := by
    refine bind_ok_iff.2 ⟨_, s₁, cleaned, bind_ok_iff.2 ⟨changed, s₂, routed, ?_⟩⟩
    refine bind_ok_iff.2 ⟨images, s₃, imaged, bind_ok_iff.2 ⟨vendor, s₄, vendored, ?_⟩⟩
    exact bind_ok_iff.2 ⟨assets, t, compiled, rfl⟩
  dsimp only at ran
  split at ran
  · obtain ⟨_, s₇, noted, ran⟩ := bind_ok_iff.1 ran
    obtain rfl := modify_ok_iff.1 noted
    obtain ⟨-, rfl⟩ := pure_ok_iff.1 ran
    exact ⟨_, pages, t, u, _, prepared, rendered, rfl⟩
  · obtain ⟨-, rfl⟩ := pure_ok_iff.1 ran
    exact ⟨_, pages, t, u, u.log, prepared, rendered, rfl⟩

theorem buildAssets_coherent {schedule : Schedule} {r : StageResult}
    (ran : buildAssets schedule s = .ok r t) : Coherent t := by
  obtain ⟨_, s₁, cleaned, ran⟩ := bind_ok_iff.1 ran
  obtain ⟨coherent, -⟩ := clean_ok cleaned
  obtain ⟨_, s₂, routed, ran⟩ := bind_ok_iff.1 ran
  have coherent := (quiet_rebuildRoutes _ _ _ routed).coherent coherent
  obtain ⟨_, s₃, imaged, ran⟩ := bind_ok_iff.1 ran
  obtain ⟨_, imaged⟩ := publishImages_ok coherent imaged
  obtain ⟨_, s₄, vendored, ran⟩ := bind_ok_iff.1 ran
  have coherent := (quiet_publishVendor _ _ _ vendored).coherent imaged.ran.coherent
  obtain ⟨_, s₅, compiled, ran⟩ := bind_ok_iff.1 ran
  obtain ⟨_, compiled, -⟩ := compileAssets_ok coherent compiled
  obtain ⟨-, rfl⟩ := pure_ok_iff.1 ran
  exact compiled.coherent

/-- A full build that is ready for a page when its assets are done brings the page up to date. -/
theorem buildProject_current {schedule : Schedule} {r : StageResult} {s s' : State}
    (ready : ∀ r t, buildAssets schedule s = .ok r t → Ready t root)
    (ran : buildProject schedule s = .ok r s') : Current s' root := by
  obtain ⟨assets, pages, t, u, log, prepared, rendered, rfl⟩ := buildProject_pages ran
  obtain ⟨coherent, views, routes, page⟩ := (ready _ _ prepared).current
    (buildAssets_coherent prepared) (fun _ => id) rendered Or.inl
  exact ⟨(show Alike u { u with log } from ⟨rfl, rfl, rfl, rfl, rfl⟩).coherent coherent, views,
    routes, fun listed =>
      let ⟨rendered, upToDate, missing⟩ := page listed
      ⟨rendered, upToDate.noted log, missing⟩⟩

/-! ## Sessions -/

/-- The states between the steps of a session that edits templates alone. Each step is ready for the
page of a root when pages come to be rendered. A batch leaves the views and the assets of the page
alone, does not merely list the routes in another order, and renders nothing but roots. -/
inductive Editing (root : Path) : State → Prop
  | built {schedule : Schedule} {r : StageResult} {s s' : State}
      (ready : ∀ r t, buildAssets schedule s = .ok r t → Ready t root)
      (ran : buildProject schedule s = .ok r s') : Editing root s'
  | batch {changes : List Change} {files : FileTree} {r : StageResult} {s s' : State}
      (session : Editing root s) (edits : EditsTemplates changes s files)
      (assets : SameAssets root s { s with files })
      (order : let table := (Route.tableOf (State.routeEntries { s with files })).1
        Table.same table s.routes = true → table = s.routes)
      (ready : ∀ r t, remake changes { s with files } = .ok r t → Ready t root ∧
        (∀ other ∈ t.existing r.roots, other ∈ t.roots) ∧ SameBelow s.layout.views files t.files)
      (ran : handle changes { s with files } = .ok r s') : Editing root s'

theorem Editing.current (session : Editing root s) : Current s root := by
  induction session with
  | built ready ran => exact buildProject_current ready ran
  | batch session edits assets order ready ran ih =>
    obtain ⟨_, t, remade, -⟩ := handle_ok ran
    obtain ⟨ready, roots, same⟩ := ready _ _ remade
    exact ih.handle edits assets order remade ready roots same ran

/-- Whether the page of a root is to be rendered from the same sources in another state. -/
structure SameSources (root : Path) (s t : State) : Prop where
  layout : t.layout = s.layout
  environment : t.environment = s.environment
  views : SameBelow s.layout.views s.files t.files
  assets : SameAssets root s t

namespace SameSources

variable {rendered : Template.Rendered}

theorem plain (sources : SameSources root s t) (plain : s.files.PlainBelow s.layout.views) :
    t.files.PlainBelow t.layout.views :=
  sources.layout ▸ sources.views.plainBelow plain

/-- From the same sources a root is rendered to the same page. -/
theorem reading? (sources : SameSources root s t) (plain : s.files.PlainBelow s.layout.views)
    (routes : t.routes = s.routes) (listed : root ∈ s.roots)
    (read : s.reading? root [] = some rendered) : t.reading? root [] = some rendered := by
  have stands : Stands s.templateSite t.files t.store.get? rendered.loads rendered.lookups
      rendered.missing := by
    refine stands_of_views plain sources.layout sources.views fun path member => ?_
    obtain ⟨published, file⟩ := sources.assets rendered read path member
    exact ⟨published, fun content named => file.trans named⟩
  exact reading?_again plain (sources.plain plain) listed
    ((mem_roots_congr plain sources.layout sources.views).2 listed) sources.layout routes
    sources.environment read stands

end SameSources

/-- A tree stays plain below a directory when a file there is given another content. -/
theorem plainBelow_put {files : FileTree} {d p : Path} {content : Bytes} (plain : files.PlainBelow d)
    (proper : p.IsProper) : (files.put p (.file content)).PlainBelow d where
  directory := plain.directory
  proper q e found below := by
    by_cases same : q = p
    · exact same ▸ proper
    · exact plain.proper q e (get?_put_of_ne same _ ▸ found) below
  linkless q near := by
    rintro ⟨target, found⟩
    by_cases same : q = p
    · subst same
      by_cases top : q = Path.root
      · subst top
        cases found
      · rw [get?_put_self top] at found
        cases found
    · exact plain.linkless q near ⟨target, get?_put_of_ne same (.file content) ▸ found⟩

/-- Nothing lies below a file. -/
theorem target?_below_file {files : FileTree} {d p q : Path} {content : Bytes}
    (plain : files.PlainBelow d) (file : files.get? p = some (.file content)) (proper : q.IsProper)
    (below : q.isBelow d = true) (under : q.isBelow p = true) (other : p ≠ q) (e : Entry) :
    files.target? q ≠ some e := by
  intro named
  obtain ⟨-, directory⟩ := directory_above proper (plain.passes below) named under other
  cases file.symm.trans directory

/-- A batch of a template that is given another content edits templates. -/
theorem editsTemplates_put {p : Path} {content : Bytes} (plain : s.files.PlainBelow s.layout.views)
    (proper : p.IsProper) (below : p.isBelow s.layout.views = true)
    (outside : p.isBelow s.layout.output = false) (template : isTemplate p = true)
    (file : s.files.isFile p = true)
    (change : State.isChange { s with files := s.files.put p (.file content) }
      ⟨.modified, p.text⟩ p) :
    EditsTemplates [⟨.modified, p.text⟩] s (s.files.put p (.file content)) := by
  have plain' : (s.files.put p (.file content)).PlainBelow s.layout.views :=
    plainBelow_put plain proper
  obtain ⟨old, named⟩ := isFile_iff.1 file
  have there := plain.get? proper below named
  have top : p ≠ Path.root := by
    rintro rfl
    cases there
  have along {q : Path} (proper : q.IsProper) (near : q.isBelow s.layout.views = true)
      (aside : q.isBelow p = false) :
      (s.files.put p (.file content)).target? q = s.files.target? q := by
    refine target?_congr proper (plain.passes near) fun r above => get?_put_of_ne ?_ _
    rintro rfl
    exact absurd (aside.symm.trans above) Bool.false_ne_true
  refine ⟨List.cons_ne_nil _ _, ?_, ?_, fun q proper' near unlisted other => ?_, fun q out => ?_⟩
  · simp
  · intro c member
    cases List.mem_singleton.1 member
    exact ⟨p, change, below, template⟩
  · have different : p ≠ q := by
      rintro rfl
      exact unlisted _ (List.mem_singleton_self _) change
    cases under : q.isBelow p with
    | false => rw [along proper' near under]
    | true =>
      exact iff_of_false
        (target?_below_file plain' (get?_put_self top _) proper' near under different _)
        (target?_below_file plain there proper' near under different _)
  · refine get?_put_of_ne ?_ _
    rintro rfl
    exact absurd (outside.symm.trans out) Bool.false_ne_true

/-! ## Sites -/

/-- A page that includes a partial and looks up an image. -/
def withNav : State :=
  productionSite [(["views"], .directory), (["assets"], .directory), (["assets", "img"], .directory),
    (["views", "_nav.html"], textFile "N"),
    (["views", "index.html"],
      textFile "\x7b% include '_nav.html' %\x7d\x7b\x7b asset_path('logo.svg') \x7d\x7d"),
    (["assets", "img", "logo.svg"], textFile "2")]

/-- The site with another partial. -/
def withOtherNav : State :=
  withNav.withEntry navPartial (textFile "M")

/-- Whether a state passes a test once its assets are built. -/
def builds (s : State) (test : State → Bool) : Bool :=
  passes (buildAssets []) s fun _ t => test t

/-- Whether a session goes on from a state with a batch that changes a template, as far as
evaluation tells. -/
def editsFrom (root p : Path) (text : String) (s : State) : Bool :=
  let edited := s.withEntry p (textFile text)
  let table := (Route.tableOf edited.routeEntries).1
  decide (s.files.PlainBelow s.layout.views) && p.isBelow s.layout.views &&
    !p.isBelow s.layout.output && isTemplate p && s.files.isFile p &&
    (realPath edited.files p).toOption == some p &&
    (s.reading? root []).all (fun rendered => rendered.lookups.all fun path =>
      edited.files.target? (s.templateSite.publishedFile path) ==
        s.files.target? (s.templateSite.publishedFile path)) &&
    (!Table.same table s.routes || table == s.routes) &&
    passes (remake [⟨.modified, p.text⟩]) edited fun r t =>
      decide (Ready t root) && (t.existing r.roots).all t.roots.contains &&
        decide (SameBelow s.layout.views edited.files t.files)

theorem Editing.edited {p : Path} {text : String} (session : Editing root s) (proper : p.IsProper)
    (holds : editsFrom root p text s = true) {r : StageResult} {s' : State}
    (ran : handle [⟨.modified, p.text⟩] (s.withEntry p (textFile text)) = .ok r s') :
    Editing root s' := by
  simp only [editsFrom, Bool.and_eq_true, decide_eq_true_eq, beq_iff_eq, Bool.not_eq_true',
    Bool.or_eq_true] at holds
  obtain ⟨⟨⟨⟨⟨⟨⟨⟨plain, below⟩, outside⟩, template⟩, file⟩, place⟩, assets⟩, order⟩, remaking⟩ := holds
  refine .batch session (editsTemplates_put plain proper below outside template file ?_) ?_ ?_ ?_ ran
  · change realPath (s.withEntry p (textFile text)).files (Path.ofText s.base p.text) = _
    rw [proper.ofText_eq]
    cases found : realPath (s.withEntry p (textFile text)).files p with
    | error abort => rw [found] at place; cases place
    | ok q => rw [found] at place; exact congrArg Except.ok (Option.some.inj place)
  · intro rendered read path member
    rw [read] at assets
    exact ⟨rfl, eq_of_beq (List.all_eq_true.1 assets path member)⟩
  · intro table same
    refine order.resolve_left fun changed => ?_
    cases changed.symm.trans same
  · intro r t remade
    have passed := of_passes remaking remade
    simp only [Bool.and_eq_true, decide_eq_true_eq, List.all_eq_true, List.contains_iff_mem] at passed
    exact ⟨passed.1.1, passed.1.2, passed.2⟩

/-- A partial is changed, and a full build of the final sources has the same to start from. -/
theorem edits_withNav :
    builds withNav (fun t => decide (Ready t indexPage)) = true ∧
    succeeds (buildProject []) withNav (fun s => editsFrom indexPage navPartial "M" s &&
      passes (handle [⟨.modified, navPartial.text⟩]) (s.withEntry navPartial (textFile "M"))
        fun _ s => builds withOtherNav fun t =>
          decide (Ready t indexPage) && t.layout == s.layout && t.environment == s.environment &&
            decide (SameBelow s.layout.views s.files t.files) &&
            (s.reading? indexPage []).all fun rendered => rendered.lookups.all fun path =>
              t.store.get? path == s.store.get? path &&
                t.files.target? (s.templateSite.publishedFile path) ==
                  s.files.target? (s.templateSite.publishedFile path)) = true := by
  decide +kernel

/-- A page that includes a partial with an open tag. -/
def withBrokenNav : State :=
  productionSite [(["views"], .directory), (["views", "_nav.html"], textFile "\x7b% if %\x7d"),
    (["views", "index.html"], textFile "\x7b% include '_nav.html' %\x7d")]

theorem edits_withBrokenNav : passes (buildProject []) withBrokenNav (fun _ s =>
    s.layout == withBrokenNav.layout && s.files.get? navPartial == some (textFile "\x7b% if %\x7d") &&
    passes (handle [⟨.modified, navPartial.text⟩]) (s.withEntry navPartial (textFile "N")) fun _ s =>
      (s.files.get? (s.pageFile indexPage)).isNone && succeeds (buildProject []) s fun f =>
        f.roots.contains indexPage && f.layout == s.layout &&
          f.files.get? (f.pageFile indexPage) == some (textFile "N")) = true := by
  decide +kernel

end Folio.Build
