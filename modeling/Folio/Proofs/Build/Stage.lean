import Folio.Proofs.Build.Affected
import Folio.Proofs.Build.Influence
import Folio.Proofs.FileTree.Below
import Folio.Proofs.Route

/-!
# A stage of pages

The pages of a site are rendered one after another, and each is written to its file before the next
is rendered. If no page has a part in another and no link is in the way, all that pages are made of
stays as it is in the meantime, and in the end the page of each root that was rendered is up to date
(`Between.compilePages`).
-/

namespace Folio.Build

open Template FileTree

variable {s t u u' : State} {root other : Path} {rendered : Template.Rendered}

/-! ## Roots -/

theorem hasPage_congr (layout : t.layout = s.layout) (p : Path) : t.hasPage p = s.hasPage p := by
  rw [State.hasPage, State.hasPage, layout]

theorem isPage_text (segments : List String) :
    View.isPage (Written.text ⟨.relative, segments⟩) = View.isPage (joinSegments segments) := by
  cases segments with
  | nil => decide +kernel
  | cons segment segments => rw [Written.text, if_neg (by simp), PathRoot.text, String.empty_append]

theorem hasPage_eq (s : State) (p : Path) : s.hasPage p =
    (p.below? s.layout.views).any fun segments => View.isPage (joinSegments segments) := by
  unfold State.hasPage
  simp only [isPage_text]

theorem ne_views (page : s.hasPage root = true) : root ≠ s.layout.views := by
  rintro rfl
  have here : s.layout.views.below? s.layout.views = some [] := by
    conv_lhs => arg 1; rw [← Path.append_nil s.layout.views]
    exact Path.below?_append ..
  rw [hasPage_eq, here] at page
  exact absurd page (by decide +kernel)

/-- The roots of plain views are their files that have a page. -/
theorem mem_roots (plain : s.files.PlainBelow s.layout.views) : root ∈ s.roots ↔
    root.IsProper ∧ root.isBelow s.layout.views = true ∧ s.files.isFile root = true ∧
      s.hasPage root = true := by
  have itself : ∀ p ∈ s.templates, s.files.resolve p = p := by
    intro p member
    obtain ⟨proper, -, below, -⟩ := (mem_filesBelow plain).1 member
    exact plain.resolve_eq proper below
  unfold State.roots
  rw [List.mem_map]
  simp only [List.mem_filter, ← hasPage_eq]
  constructor
  · rintro ⟨p, ⟨member, page⟩, rfl⟩
    rw [itself p member]
    obtain ⟨proper, -, below, file⟩ := (mem_filesBelow plain).1 member
    exact ⟨proper, below, file, page⟩
  · rintro ⟨proper, below, file, page⟩
    have member := (mem_filesBelow plain).2 ⟨proper, ne_views page, below, file⟩
    exact ⟨root, ⟨member, page⟩, itself root member⟩

/-- A file below a plain directory is in its own place. -/
theorem realPath_of_isFile {files : FileTree} {d p : Path} (plain : files.PlainBelow d)
    (proper : p.IsProper) (below : p.isBelow d = true) (file : files.isFile p = true) :
    realPath files p = .ok p := by
  obtain ⟨content, named⟩ := isFile_iff.1 file
  rw [realPath_ok_iff]
  unfold FileTree.realPath
  rw [plain.resolve_eq proper below]
  unfold FileTree.target? at named
  cases reached : files.locateTarget p with
  | error problem => rw [reached] at named; cases named
  | ok q =>
    have usable : holdsNull p = false := by
      by_contra unusable
      rw [FileTree.locateTarget, if_pos (by simpa using unusable)] at reached
      cases reached
    rw [usable]
    rfl

theorem realPath_root (plain : s.files.PlainBelow s.layout.views) (listed : root ∈ s.roots) :
    realPath s.files root = .ok root :=
  have ⟨proper, below, file, _⟩ := (mem_roots plain).1 listed
  realPath_of_isFile plain proper below file

/-! ## Page files -/

/-- The file of the page of a root template. -/
def State.pageFile (s : State) (root : Path) : Path :=
  s.layout.pageFile ((root.below? s.layout.views).getD [])

/-- The name of a page file is a segment, and not that of a temporary file. -/
theorem pageName_plain {name : String} (plain : '/' ∉ name.toList) :
    (IsSegment (View.pageName name) ∧ View.pageName name ≠ "..") ∧
      ∀ other : String, View.pageName name ≠ "." ++ other ++ ".tmp" := by
  have inside : '/' ∉ (View.baseName name).toList := fun member => plain (View.mem_of_mem_baseName member)
  unfold View.pageName
  dsimp only
  generalize View.baseName name = base at inside ⊢
  split
  · next ends =>
    refine ⟨⟨⟨?_, ?_, inside⟩, ?_⟩, fun other same => ?_⟩
    · rintro rfl
      exact absurd ends (by decide +kernel)
    · rintro rfl
      exact absurd ends (by decide +kernel)
    · rintro rfl
      exact absurd ends (by decide +kernel)
    · subst same
      obtain ⟨image, last⟩ :=
        Text.lowerAfter_append [] ("." ++ other ++ ".tm").toList (by decide : List.all ['p'] _ = true)
      have text : ("." ++ other ++ ".tmp").toList = ("." ++ other ++ ".tm").toList ++ ['p'] := by
        simp
      rw [Text.lower, text, last, Asset.endsWith, String.toList_ofList] at ends
      obtain ⟨start, ends⟩ := List.isSuffixOf_iff_suffix.1 ends
      have last := congrArg (fun cs : List Char => cs.reverse.head?) ends
      simp at last
  · have long {s : String} (short : s.toList.length < 5) : base ++ ".html" ≠ s := by
      rintro rfl
      simp at short
    refine ⟨⟨⟨long (by decide), long (by decide), ?_⟩, long (by decide)⟩, fun other same => ?_⟩
    · simp [inside]
    · have last := congrArg (fun s : String => s.toList.reverse.head?) same
      simp at last

theorem getLast?_isProper {segments : List String}
    (proper : ∀ segment ∈ segments, IsSegment segment ∧ segment ≠ "..") :
    '/' ∉ (segments.getLast?.getD "").toList := by
  cases last : segments.getLast? with
  | none => simp
  | some name => exact (proper name (List.mem_of_getLast? last)).1.2.2

theorem pageFile_isProper {l : Layout} {segments : List String} (output : l.output.IsProper)
    (proper : ∀ segment ∈ segments, IsSegment segment ∧ segment ≠ "..") :
    (l.pageFile segments).IsProper :=
  (output.append fun segment member => proper segment (List.dropLast_subset _ member)).child
    (pageName_plain (getLast?_isProper proper)).1

theorem below?_isProper {d : Path} (proper : root.IsProper) :
    ∀ segment ∈ (root.below? d).getD [], IsSegment segment ∧ segment ≠ ".." := by
  intro segment member
  cases below : root.below? d with
  | none => simp [below] at member
  | some segments =>
    rw [below] at member
    refine proper segment ?_
    rw [← Path.append_of_below? below]
    exact List.mem_append_right _ member

/-- The page files of roots with proper paths are proper and no temporary files. -/
theorem pageFile_proper (output : s.layout.output.IsProper) (proper : root.IsProper)
    (other : Path) :
    (s.pageFile root).IsProper ∧ s.pageFile root ≠ Op.temporary (s.pageFile other) := by
  have segments := @below?_isProper root s.layout.views proper
  refine ⟨pageFile_isProper output segments, fun same => ?_⟩
  have lasting := (pageName_plain (getLast?_isProper segments)).2
  have names := congrArg Path.name same
  simp only [State.pageFile, Layout.pageFile, Path.name, Path.child, Op.temporary,
    Path.withName, List.getLast?_append, List.getLast?_singleton, Option.some_or,
    Option.getD_some] at names
  exact lasting _ names

/-! ## The start of a stage -/

/-- Whether no asset that was looked up for a page lies where a page is written, and no template was
asked for in vain. -/
structure Independent (s : State) (rendered : Template.Rendered) : Prop where
  lookups : ∀ path ∈ rendered.lookups, ∀ q,
    s.files.locateTarget (s.templateSite.publishedFile path) = .ok q → ∀ root ∈ s.roots,
      q ≠ s.pageFile root ∧ q ≠ Op.temporary (s.pageFile root)
  missing : ∀ name ∈ rendered.missing,
    isTemplate (s.layout.views.append (pathSegments name)) = false

instance (s : State) (rendered : Template.Rendered) : Decidable (Independent s rendered) :=
  decidable_of_iff ((∀ path ∈ rendered.lookups,
      ∀ q ∈ (s.files.locateTarget (s.templateSite.publishedFile path)).toOption, ∀ root ∈ s.roots,
        q ≠ s.pageFile root ∧ q ≠ Op.temporary (s.pageFile root)) ∧
    ∀ name ∈ rendered.missing, isTemplate (s.layout.views.append (pathSegments name)) = false) <| by
    have located (p q : Path) : q ∈ (s.files.locateTarget p).toOption ↔
        s.files.locateTarget p = .ok q := by
      cases s.files.locateTarget p <;> simp [Except.toOption]
    simp only [located]
    exact ⟨fun ⟨lookups, missing⟩ => ⟨lookups, missing⟩, fun h => ⟨h.lookups, h.missing⟩⟩

/-- Whether a page stays apart from the others while the pages of a site are rendered: the views are
plain and apart from the output, the route table is theirs, no link leads away from a page file, no
other page has the file of the page, and its root can be rendered whatever becomes of the others. -/
structure Ready (s : State) (root : Path) : Prop where
  views : s.files.PlainBelow s.layout.views
  output : s.layout.output.IsProper
  apart : s.layout.views.isBelow s.layout.output = false ∧
    s.layout.output.isBelow s.layout.views = false
  routes : s.routes = (Route.tableOf s.routeEntries).1
  free : ∀ other ∈ s.roots, s.files.Linkless (s.pageFile other) ∧
    ¬ s.files.HasLink (Op.temporary (s.pageFile other))
  single : ∀ other ∈ s.roots, s.pageFile other = s.pageFile root → other = root
  page : root ∈ s.roots → ∃ rendered, s.reading? root [] = some rendered ∧ Independent s rendered

instance (s : State) (root : Path) : Decidable (Ready s root) :=
  decidable_of_iff (s.files.PlainBelow s.layout.views ∧ s.layout.output.IsProper ∧
    (s.layout.views.isBelow s.layout.output = false ∧
      s.layout.output.isBelow s.layout.views = false) ∧
    s.routes = (Route.tableOf s.routeEntries).1 ∧
    (∀ other ∈ s.roots, s.files.Linkless (s.pageFile other) ∧
      ¬ s.files.HasLink (Op.temporary (s.pageFile other))) ∧
    (∀ other ∈ s.roots, s.pageFile other = s.pageFile root → other = root) ∧
    (root ∈ s.roots → ∃ rendered ∈ s.reading? root [], Independent s rendered))
    ⟨fun ⟨a, b, c, d, e, f, g⟩ => ⟨a, b, c, d, e, f, g⟩,
      fun ⟨a, b, c, d, e, f, g⟩ => ⟨a, b, c, d, e, f, g⟩⟩

theorem templateSite_moved (layout : t.layout = s.layout) :
    t.templateSite = s.templateSite.moved t.files t.store.get? := by
  rw [State.templateSite, layout]
  rfl

theorem templateFile?_proper {name : String} {p : Path} (views : s.layout.views.IsProper)
    (found : s.templateSite.templateFile? name = some p) :
    p.IsProper ∧ p.isBelow s.layout.views = true ∧ s.files.isFile p = true := by
  obtain ⟨straight, place, file⟩ := templateFile?_eq_some_iff.1 found
  change s.layout.views.append (pathSegments name) = p at place
  subst place
  refine ⟨fun segment member => ?_, Path.isBelow_append .., file⟩
  rcases List.mem_append.1 member with member | member
  · exact views segment member
  · refine ⟨isSegment_of_mem member, ?_⟩
    rintro rfl
    exact straight member

/-- A name that leads nowhere does so in each state with the same views that has no file more there. -/
theorem templateFile?_eq_none {name : String} (layout : t.layout = s.layout)
    (views : s.layout.views.IsProper) (absent : s.templateSite.templateFile? name = none)
    (files : (s.layout.views.append (pathSegments name)).IsProper →
      t.files.isFile (s.layout.views.append (pathSegments name)) = true →
        s.files.isFile (s.layout.views.append (pathSegments name)) = true) :
    t.templateSite.templateFile? name = none := by
  cases found : t.templateSite.templateFile? name with
  | none => rfl
  | some p =>
    obtain ⟨proper, -, file⟩ := templateFile?_proper (layout ▸ views) found
    obtain ⟨straight, place, -⟩ := templateFile?_eq_some_iff.1 found
    have place : s.layout.views.append (pathSegments name) = p := layout ▸ place
    rw [place] at files
    have again : s.templateSite.templateFile? name = some p :=
      templateFile?_eq_some_iff.2 ⟨straight, place, files proper file⟩
    exact again.symm.trans absent

/-- A root that can be rendered in a state with plain views can be rendered, to the same page, in
another one with the same routes in which all that was read stands. -/
theorem reading?_again (plain : s.files.PlainBelow s.layout.views)
    (plain' : t.files.PlainBelow t.layout.views) (listed : root ∈ s.roots) (listed' : root ∈ t.roots)
    (layout : t.layout = s.layout) (routes : t.routes = s.routes)
    (environment : t.environment = s.environment) (read : s.reading? root [] = some rendered)
    (stands : Stands s.templateSite t.files t.store.get? rendered.loads rendered.lookups
      rendered.missing) : t.reading? root [] = some rendered := by
  obtain ⟨place, segments, found, under, rendering⟩ := reading?_eq_some_iff.1 read
  rw [realPath_root plain listed] at found
  cases found
  refine reading?_eq_some_iff.2
    ⟨root, segments, realPath_root plain' listed', by rw [layout, under], ?_⟩
  have seen (name : String) : t.pageVariables name [] = s.pageVariables name [] := by
    unfold State.pageVariables State.siteVariables
    rw [routes, environment]
  unfold State.renderAt at rendering ⊢
  dsimp only at rendering ⊢
  rw [templateSite_moved layout, seen]
  exact render_repeats rendering stands

/-- States with the same views have the same roots. -/
theorem mem_roots_congr (plain : s.files.PlainBelow s.layout.views) (layout : t.layout = s.layout)
    (views : SameBelow s.layout.views s.files t.files) : other ∈ t.roots ↔ other ∈ s.roots := by
  have plain' : t.files.PlainBelow t.layout.views := layout ▸ views.plainBelow plain
  rw [mem_roots plain', mem_roots plain, hasPage_congr layout, layout]
  refine and_congr_right fun proper => and_congr_right fun below => and_congr_left fun _ => ?_
  rw [views.isFile plain proper below]

/-- With the same views what was read stands if the published files that were looked up do. -/
theorem stands_of_views {loads : List Path} {lookups missing : List String}
    (plain : s.files.PlainBelow s.layout.views) (layout : t.layout = s.layout)
    (views : SameBelow s.layout.views s.files t.files)
    (published : ∀ path ∈ lookups, t.store.get? path = s.templateSite.published path ∧ ∀ content,
      s.files.target? (s.templateSite.publishedFile path) = some (.file content) →
        t.files.target? (s.templateSite.publishedFile path) = some (.file content)) :
    Stands s.templateSite t.files t.store.get? loads lookups missing where
  loads name p found _ := by
    obtain ⟨proper, below, -⟩ := templateFile?_proper plain.directory found
    exact (views.alike plain proper below).2
  lookups := published
  missing name _ absent := by
    rw [← templateSite_moved layout]
    refine templateFile?_eq_none layout plain.directory absent fun proper file => ?_
    rwa [views.isFile plain proper (Path.isBelow_append ..)] at file

/-- Whether pages are written apart from the views and past no link. -/
structure Writable (s : State) : Prop where
  views : s.files.PlainBelow s.layout.views
  output : s.layout.output.IsProper
  apart : s.layout.views.isBelow s.layout.output = false ∧
    s.layout.output.isBelow s.layout.views = false
  free : ∀ root ∈ s.roots, s.files.Linkless (s.pageFile root) ∧
    ¬ s.files.HasLink (Op.temporary (s.pageFile root))

theorem Ready.writable (ready : Ready s root) : Writable s :=
  ⟨ready.views, ready.output, ready.apart, ready.free⟩

/-! ## Between the pages -/

/-- Whether a state is one between the pages of a stage that another state started: nothing but page
files and the directories above them has changed in it. -/
structure Between (s t : State) : Prop where
  sight : SameSight s t
  views : SameBelow s.layout.views s.files t.files
  links : ∀ q, t.files.HasLink q → s.files.HasLink q
  ways : KeepsWays s.files t.files
  kept : ∀ q e, s.files.get? q = some e →
    (∀ root ∈ s.roots, q ≠ s.pageFile root ∧ q ≠ Op.temporary (s.pageFile root)) →
      t.files.get? q = some e

namespace Between

theorem refl (s : State) : Between s s :=
  ⟨⟨rfl, rfl, rfl, rfl⟩, .refl _ _, fun _ => id, fun _ _ found _ => found, fun _ _ found _ => found⟩

theorem noted (between : Between s t) (log : Log) : Between s { t with log } :=
  ⟨⟨between.sight.layout, between.sight.routes, between.sight.environment, between.sight.store⟩,
    between.views, between.links, between.ways, between.kept⟩

theorem plain (between : Between s t) (writable : Writable s) :
    t.files.PlainBelow t.layout.views := by
  rw [between.sight.layout]
  exact between.views.plainBelow writable.views

theorem pageFile (between : Between s t) (root : Path) : t.pageFile root = s.pageFile root := by
  rw [State.pageFile, State.pageFile, between.sight.layout]

theorem roots (between : Between s t) (writable : Writable s) :
    other ∈ t.roots ↔ other ∈ s.roots :=
  mem_roots_congr writable.views between.sight.layout between.views

/-- What was read for the page of a root stands between the pages. -/
theorem stands (between : Between s t) (ready : Ready s root) (independent : Independent s rendered) :
    Stands s.templateSite t.files t.store.get? rendered.loads rendered.lookups rendered.missing := by
  refine stands_of_views ready.views between.sight.layout between.views fun path member => ?_
  refine ⟨by rw [between.sight.store]; rfl, fun content named => ?_⟩
  refine target?_persists between.ways named fun q reached => ?_
  have there : s.files.get? q = some (.file content) := by
    change s.files.target? _ = _ at named
    unfold FileTree.target? at named
    rwa [show s.files.locateTarget _ = _ from reached] at named
  exact (between.kept q _ there (independent.lookups path member q reached)).trans there.symm

/-- The root can be rendered to the same page all the time. -/
theorem reading? (between : Between s t) (ready : Ready s root) (listed : root ∈ s.roots) :
    t.reading? root [] = s.reading? root [] := by
  obtain ⟨rendered, read, independent⟩ := ready.page listed
  rw [read]
  have writable := ready.writable
  exact reading?_again ready.views (between.plain writable) listed
    ((between.roots writable).2 listed) between.sight.layout between.sight.routes between.sight.environment
    read (between.stands ready independent)

end Between

/-! ## One page -/

/-- Whether the page of a root is what rendering the root comes to, and the root is recorded with the
templates that were loaded for it. -/
structure UpToDate (s : State) (root : Path) (rendered : Template.Rendered) : Prop where
  reading : s.reading? root [] = some rendered
  file : s.files.get? (s.pageFile root) = some (.file (Text.encode rendered.html))
  recorded : ∀ p ∈ rendered.loads, p.IsProper → p.isBelow s.layout.views = true → p ≠ root →
    p.text ∈ Dependencies.related s.dependencies.edges root.text

theorem UpToDate.noted {rendered : Template.Rendered} (upToDate : UpToDate s root rendered)
    (log : Log) : UpToDate { s with log } root rendered :=
  ⟨upToDate.reading, upToDate.file, upToDate.recorded⟩

/-- The page of a root in its own place is written to its file if the root can be rendered, and
little else happens. -/
theorem addPage_cases {r r' : StageResult} (place : realPath s.files root = .ok root)
    (ran : addPage root r s = .ok r' t) :
    (s.reading? root [] = none ∧ r'.failures ≠ [] ∧ ∃ log, t = { s with log }) ∨
      ∃ rendered log, s.reading? root [] = some rendered ∧ r'.failures = r.failures ∧
        FileTree.Op.write (s.pageFile root) (Text.encode rendered.html) s.files = .ok () t.files ∧
        t = { s.afterPage root rendered with files := t.files, log } := by
  obtain ⟨out, s₁, made, ran⟩ := bind_ok_iff.1 ran
  cases out with
  | error f =>
    obtain ⟨-, ⟨_, -, rfl⟩ | ⟨_, _, _, _, same, -⟩⟩ := compilePage_ok made
    · obtain ⟨_, _, noted, ran⟩ := bind_ok_iff.1 ran
      obtain rfl := modify_ok_iff.1 noted
      obtain ⟨rfl, rfl⟩ := pure_ok_iff.1 ran
      refine Or.inl ⟨?_, by simp [StageResult.addFailure], s.log.note f.text, rfl⟩
      · by_contra some
        obtain ⟨rendered, read⟩ := Option.ne_none_iff_exists'.1 some
        obtain ⟨_, _, made', -⟩ := exists_compilePage_of_reading read
        cases made.symm.trans made'
    · cases same
  | ok page =>
    obtain ⟨place', segments, rendered, found, under, rendering, rfl, rfl⟩ := compilePage_ok_iff.1 made
    cases place.symm.trans found
    obtain ⟨_, _, got, ran⟩ := bind_ok_iff.1 ran
    obtain ⟨rfl, rfl⟩ := get_ok_iff.1 got
    obtain ⟨segments', s₂, below, ran⟩ := bind_ok_iff.1 ran
    obtain ⟨under', rfl⟩ := belowOf_ok below
    cases under.symm.trans under'
    obtain ⟨_, s₃, written, ran⟩ := bind_ok_iff.1 ran
    obtain ⟨written, after⟩ := onFiles_ok written
    obtain ⟨path, s₄, logical, ran⟩ := bind_ok_iff.1 ran
    obtain ⟨-, rfl⟩ := logicalPathOf_ok logical
    obtain ⟨_, s₅, noted, ran⟩ := bind_ok_iff.1 ran
    obtain rfl := modify_ok_iff.1 noted
    obtain ⟨rfl, rfl⟩ := pure_ok_iff.1 ran
    have file : s.pageFile root = s.layout.pageFile segments := by
      rw [State.pageFile, under, Option.getD_some]
    refine Or.inr ⟨rendered, s₃.log.compiled path, ?_, rfl, file ▸ written, ?_⟩
    · exact reading?_eq_some_iff.2 ⟨root, segments, place, under, rendering⟩
    · rw [after]

theorem parent_pageFile_isBelow (s : State) (root : Path) :
    (s.pageFile root).parent.isBelow s.layout.output = true := by
  simp only [State.pageFile, Layout.pageFile, Path.parent, Path.child, List.dropLast_concat]
  exact Path.isBelow_append ..

theorem pageFile_isBelow (s : State) (root : Path) :
    (s.pageFile root).isBelow s.layout.output = true :=
  Path.isBelow_trans (Path.isBelow_parent _) (parent_pageFile_isBelow s root)

/-- A page file and its temporary file are apart from the views. -/
theorem Writable.aside (writable : Writable s) (other : Path) :
    (∀ q, (s.pageFile other).isBelow q = true → q.isBelow s.layout.views = false) ∧
      (Op.temporary (s.pageFile other)).isBelow s.layout.views = false := by
  obtain ⟨inside, outside⟩ := writable.apart
  have apart {q : Path} (out : q.isBelow s.layout.output = true) :
      q.isBelow s.layout.views = false := by
    rw [Bool.eq_false_iff]
    intro views
    rcases Path.isBelow_total out views with one | two
    · exact absurd (outside.symm.trans one) Bool.false_ne_true
    · exact absurd (inside.symm.trans two) Bool.false_ne_true
  refine ⟨fun q upward => ?_, ?_⟩
  · rw [Bool.eq_false_iff]
    intro views
    exact absurd ((apart (pageFile_isBelow s other)).symm.trans (Path.isBelow_trans upward views))
      Bool.false_ne_true
  · refine apart (Path.isBelow_trans (Path.isBelow_parent _) ?_)
    rw [Op.parent_temporary]
    exact parent_pageFile_isBelow s other

/-- What the page of a root is recorded with. -/
theorem mem_related_afterPage {p : Path} (plain : s.files.PlainBelow s.layout.views)
    (proper : root.IsProper) (loaded : p ∈ rendered.loads) (proper' : p.IsProper)
    (below : p.isBelow s.layout.views = true) (other : p ≠ root) :
    p.text ∈ Dependencies.related (s.afterPage root rendered).dependencies.edges root.text := by
  have kept : p.text ∈ Dependencies.kept s.base root.text
      ((rendered.loads.filter fun p => s.files.resolve p ≠ root).map Path.text ++
        s.lookedUp (s.named rendered.lookups)) := by
    refine Dependencies.mem_kept.2 ⟨List.mem_map.2 ⟨p.text, ?_, proper'.normalize_eq s.base⟩, ?_⟩
    · refine List.mem_append_left _ (List.mem_map_of_mem (List.mem_filter.2 ⟨loaded, ?_⟩))
      rw [plain.resolve_eq proper' below]
      exact decide_eq_true other
    · exact fun same => other ((text_inj proper' proper).1 same)
  unfold State.afterPage State.made Dependencies.related
  rw [Dependencies.lookup_edges_record, if_pos (proper.normalize_eq s.base)]
  exact kept

/-- What else is recorded stays when a page is made. -/
theorem related_afterPage_of_ne {name : String} (proper : other.IsProper)
    (different : other.text ≠ name) :
    Dependencies.related (s.afterPage other rendered).dependencies.edges name =
      Dependencies.related s.dependencies.edges name := by
  unfold State.afterPage State.made Dependencies.related
  rw [Dependencies.lookup_edges_record, proper.normalize_eq, if_neg different]

namespace Between

/-- What writing the page of a root leaves is a state between the pages. -/
theorem wrote {content : Bytes} (between : Between s t) (writable : Writable s)
    (listed : other ∈ s.roots) (sight : SameSight t u)
    (written : Op.write (s.pageFile other) content t.files = .ok () u.files) :
    Between s u ∧ Wrote (s.pageFile other) content t.files u.files := by
  obtain ⟨proper, below, file, page⟩ := (mem_roots writable.views).1 listed
  obtain ⟨linkless, plain⟩ := writable.free other listed
  have wrote := Op.write_ok (pageFile_proper writable.output proper other).1
    (fun q upward link => linkless q upward (between.links q link))
    (fun link => plain (between.links _ link)) written
  obtain ⟨outside, aside⟩ := writable.aside other
  refine ⟨?_, wrote⟩
  exact
    { sight := ⟨sight.layout.trans between.sight.layout, sight.routes.trans between.sight.routes,
        sight.environment.trans between.sight.environment, sight.store.trans between.sight.store⟩
      views := by
        refine ⟨(wrote.part outside aside).trans between.views.part, fun q above => ?_⟩
        obtain ⟨content, named⟩ := isFile_iff.1 file
        have upward := Path.isBelow_trans below above
        have inside : q ≠ other := by
          rintro rfl
          exact ne_views page (Path.eq_of_isBelow below above)
        obtain ⟨-, directory⟩ :=
          directory_above proper (writable.views.passes below) named upward inside
        rw [directory]
        have there := between.ways q _ directory fun _ => Entry.noConfusion
        exact wrote.ways q _ there fun _ => Entry.noConfusion
      links := by
        rintro q ⟨target, found⟩
        rcases wrote.fresh q _ found with before | rfl | ⟨same, -⟩
        · exact between.links q ⟨target, before⟩
        · rw [wrote.file] at found
          cases found
        · cases same
      ways := fun q e found other => wrote.ways q e (between.ways q e found other) other
      kept := fun q e found apart =>
        wrote.kept q e (between.kept q e found apart) (apart other listed).1 (apart other listed).2 }

/-- A page stays up to date when another one is made. -/
theorem upToDate_of_ne (between : Between s t) (between' : Between s u) (ready : Ready s root)
    (listed : root ∈ s.roots) (listed' : other ∈ s.roots) (different : other ≠ root)
    {others : Template.Rendered} {content : Bytes}
    (wrote : Wrote (s.pageFile other) content t.files u.files)
    (made : u.dependencies = (t.afterPage other others).dependencies)
    (upToDate : UpToDate t root rendered) : UpToDate u root rendered where
  reading := by
    rw [between'.reading? ready listed, ← between.reading? ready listed]
    exact upToDate.reading
  file := by
    have proper := ((mem_roots ready.views).1 listed).1
    rw [between'.pageFile]
    refine wrote.kept _ _ (between.pageFile root ▸ upToDate.file) (fun same => ?_) ?_
    · exact different (ready.single other listed' same.symm)
    · exact (pageFile_proper ready.output proper other).2
  recorded p loaded proper below away := by
    have recorded := upToDate.recorded p loaded proper
      (by rwa [between.sight.layout, ← between'.sight.layout]) away
    have proper := ((mem_roots ready.views).1 listed).1
    have proper' := ((mem_roots ready.views).1 listed').1
    rw [made, related_afterPage_of_ne proper' (mt (text_inj proper' proper).1 different)]
    exact recorded

/-- A page more is made, or fails: all that the page is made of is kept in any case. -/
theorem addPage {r r' : StageResult} (between : Between s t) (ready : Ready s root)
    (listed : other ∈ s.roots) (ran : addPage other r t = .ok r' u) :
    Between s u ∧ (root ∈ s.roots → other = root ∨ (∃ rendered, UpToDate t root rendered) →
      ∃ rendered, UpToDate u root rendered) := by
  have writable := ready.writable
  have place := realPath_root (between.plain writable) ((between.roots writable).2 listed)
  rcases addPage_cases place ran with ⟨none, -, log, rfl⟩ | ⟨others, log, read, -, written, after⟩
  · refine ⟨between.noted log, fun page current => ?_⟩
    rcases current with rfl | ⟨rendered, upToDate⟩
    · obtain ⟨rendered, read, -⟩ := ready.page page
      cases none.symm.trans ((between.reading? ready page).trans read)
    · exact ⟨rendered, upToDate.noted log⟩
  · have sight : SameSight t u := by rw [after]; exact ⟨rfl, rfl, rfl, rfl⟩
    rw [between.pageFile] at written
    obtain ⟨between', wrote⟩ := between.wrote writable listed sight written
    have made : u.dependencies = (t.afterPage other others).dependencies := by rw [after]
    refine ⟨between', fun page current => ?_⟩
    by_cases same : other = root
    · subst same
      refine ⟨others, ?_, ?_, fun p loaded proper below away => ?_⟩
      · rw [between'.reading? ready page, ← between.reading? ready page, read]
      · rw [between'.pageFile]
        exact wrote.file
      · rw [made]
        rw [between'.sight.layout, ← between.sight.layout] at below
        exact mem_related_afterPage (between.plain writable) ((mem_roots ready.views).1 listed).1 loaded
          proper below away
    · obtain ⟨rendered, upToDate⟩ := current.resolve_left same
      exact ⟨rendered, between.upToDate_of_ne between' ready page listed same wrote made upToDate⟩

/-- Rendering pages brings the page up to date if it is one of them, and leaves it so if not. -/
theorem compilePages {pages : List Path} {r r' : StageResult} (between : Between s t)
    (ready : Ready s root) (listed : ∀ other ∈ pages, other ∈ s.roots)
    (ran : compilePages pages r t = .ok r' u) :
    Between s u ∧ (root ∈ s.roots → root ∈ pages ∨ (∃ rendered, UpToDate t root rendered) →
      ∃ rendered, UpToDate u root rendered) := by
  induction pages generalizing t r with
  | nil =>
    obtain ⟨rfl, rfl⟩ := pure_ok_iff.1 ran
    exact ⟨between, fun _ current => current.resolve_left List.not_mem_nil⟩
  | cons first pages ih =>
    obtain ⟨r₁, t₁, added, ran⟩ := bind_ok_iff.1 ran
    obtain ⟨here, later⟩ := List.forall_mem_cons.1 listed
    obtain ⟨between', made⟩ := between.addPage ready here added
    obtain ⟨between'', current⟩ := ih between' later ran
    refine ⟨between'', fun page before => current page ?_⟩
    rw [List.mem_cons, eq_comm, or_assoc, or_left_comm] at before
    exact before.imp_right (made page)

end Between

end Folio.Build
