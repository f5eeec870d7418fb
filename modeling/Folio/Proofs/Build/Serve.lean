import Folio.Proofs.Build.Sources
import Folio.Proofs.Build.Stage
import Folio.Proofs.Preview

/-!
# Serving a built site

A full build of templates alone leaves no files in the output but page files, one for each root, and
the preview answers the public path of each template that it takes for one with its page
(`respond_buildProject`).
-/

namespace Folio.Build

open FileTree

variable {s t u : State} {root : Path}

/-! ## Builds without assets -/

theorem runTogether_nil (schedule : Schedule) (s : State) :
    runTogether schedule (.start scriptCraft []) (.start styleCraft []) s = .ok .empty s := by
  induction schedule with
  | nil => rfl
  | cons turn schedule ih =>
    cases turn with
    | script => exact ih
    | style => exact ih

/-- Without assets nothing but the routes is made before the pages. -/
theorem buildCleaned_eq (schedule : Schedule) (images : s.images = [])
    (vendor : s.files.isDirectory s.layout.vendor = false) (scripts : s.scripts = [])
    (styles : s.styles false = []) :
    ∃ log routes, buildCleaned schedule s = .ok .empty { s with log, routes } := by
  obtain ⟨log, rebuilt⟩ := rebuildRoutes_eq s
  let routes := (Route.tableOf s.routeEntries).1
  let t : State := { s with log, routes }
  have imaged : publishImages none t = .ok .empty t := by
    change runAll imageCraft s.images t = _
    rw [images]
    rfl
  have vendored : publishVendor t = .ok .empty t := by
    change (if !s.files.isDirectory s.layout.vendor then _ else _ : Build StageResult) t = _
    rw [vendor]
    rfl
  have compiled : compileAssets schedule t = .ok .empty t := by
    change runTogether schedule (.start scriptCraft s.scripts) (.start styleCraft (s.styles false)) t = _
    rw [scripts, styles]
    exact runTogether_nil schedule t
  exact ⟨log, routes, bind_ok_iff.2 ⟨_, t, rebuilt, bind_ok_iff.2 ⟨_, t, imaged,
    bind_ok_iff.2 ⟨_, t, vendored, bind_ok_iff.2 ⟨_, t, compiled, rfl⟩⟩⟩⟩⟩

/-! ## Pages so far -/

/-- What there is after some roots of a site were rendered: unless one failed each has its page, and
the output holds no files but pages. -/
structure Filled (s : State) (done : List Path) (r : StageResult) (t : State) : Prop where
  between : Between s t
  listed : ∀ root ∈ done, root ∈ s.roots
  written : r.failures = [] → ∀ root ∈ done,
    ∃ content, t.files.target? (s.pageFile root) = some (.file content)
  only : ∀ q content, t.files.get? q = some (.file content) → q.isBelow s.layout.output = true →
    ∃ root ∈ s.roots, s.pageFile root = q

namespace Filled

variable {done pages : List Path} {r r' : StageResult}

theorem target?_kept {other : Path} {content new : Bytes} (between : Between s t)
    (writable : Writable s) (listed : root ∈ s.roots)
    (wrote : Wrote (s.pageFile other) new t.files u.files) (different : s.pageFile root ≠ s.pageFile other)
    (named : t.files.target? (s.pageFile root) = some (.file content)) :
    u.files.target? (s.pageFile root) = some (.file content) := by
  have proper := ((mem_roots writable.views).1 listed).1
  obtain ⟨proper, lasting⟩ := pageFile_proper writable.output proper other
  have linkless : t.files.Linkless (s.pageFile root) :=
    fun q upward link => (writable.free root listed).1 q upward (between.links q link)
  refine target?_persists wrote.ways named fun q reached => ?_
  obtain rfl := locateTarget_eq proper linkless reached
  have there := get?_of_target? proper linkless named
  rw [there, wrote.kept _ _ there different lasting]

theorem addPage (filled : Filled s done r t) (writable : Writable s) (listed : root ∈ s.roots)
    (ran : addPage root r t = .ok r' u) : Filled s (done ++ [root]) r' u := by
  have between := filled.between
  have place := realPath_root (between.plain writable) ((between.roots writable).2 listed)
  have later : ∀ other ∈ done ++ [root], other ∈ s.roots := by
    intro other member
    rcases List.mem_append.1 member with before | last
    · exact filled.listed other before
    · exact List.mem_singleton.1 last ▸ listed
  rcases addPage_cases place ran with ⟨-, failed, log, rfl⟩ | ⟨rendered, log, -, same, written, after⟩
  · exact ⟨between.noted log, later, fun none => absurd none failed, filled.only⟩
  · have sight : SameSight t u := by rw [after]; exact ⟨rfl, rfl, rfl, rfl⟩
    rw [between.pageFile] at written
    obtain ⟨between', wrote⟩ := between.wrote writable listed sight written
    refine ⟨between', later, fun none other member => ?_, fun q content found below => ?_⟩
    · -- The page may take the file of an earlier one, which then has the content of the later page.
      by_cases together : s.pageFile other = s.pageFile root
      · exact ⟨_, together ▸ wrote.named⟩
      · have before : other ∈ done := by
          refine (List.mem_append.1 member).resolve_right fun last => together ?_
          rw [List.mem_singleton.1 last]
        obtain ⟨content, named⟩ := filled.written (same ▸ none) other before
        exact ⟨content, target?_kept between writable (later other member) wrote together named⟩
    · rcases wrote.fresh _ _ found with before | here | ⟨directory, -⟩
      · exact filled.only q content before below
      · exact ⟨root, listed, here.symm⟩
      · cases directory

theorem compilePages (filled : Filled s done r t) (writable : Writable s)
    (listed : ∀ root ∈ pages, root ∈ s.roots) (ran : compilePages pages r t = .ok r' u) :
    Filled s (done ++ pages) r' u := by
  induction pages generalizing done t r with
  | nil =>
    obtain ⟨rfl, rfl⟩ := pure_ok_iff.1 ran
    rwa [List.append_nil]
  | cons root pages ih =>
    obtain ⟨r₁, t₁, added, ran⟩ := bind_ok_iff.1 ran
    obtain ⟨here, later⟩ := List.forall_mem_cons.1 listed
    have whole := ih (filled.addPage writable here added) later ran
    rwa [List.append_assoc] at whole

end Filled

/-! ## Templates alone -/

/-- Whether templates are all that a site has for sources. The sources lie apart from the output,
and no link leads to either. -/
structure TemplatesAlone (s : State) : Prop where
  separate : Separate s
  plain : s.files.PlainBelow s.layout.source
  only : ∀ q e, s.files.get? q = some e → q.isBelow s.layout.source = true →
    q = s.layout.source ∨ q.isBelow s.layout.views = true

instance (s : State) : Decidable (TemplatesAlone s) :=
  decidable_of_iff (Separate s ∧ s.files.PlainBelow s.layout.source ∧
      ∀ e ∈ s.files.entries, e.1.isBelow s.layout.source = true →
        e.1 = s.layout.source ∨ e.1.isBelow s.layout.views = true) <| by
    refine ⟨fun ⟨separate, plain, all⟩ => ⟨separate, plain, fun q e found inside => ?_⟩,
      fun alone => ⟨alone.separate, alone.plain, fun e member => ?_⟩⟩
    · by_cases top : q = Path.root
      · subst top
        exact Or.inl (Path.eq_of_isBelow inside (Path.isBelow_append Path.root _))
      · obtain ⟨e, member⟩ := exists_mem_entries found top
        exact all _ member inside
    · obtain ⟨there, found⟩ := exists_get?_of_mem member
      exact alone.only e.1 there found

/-- Whether nothing but directories lies at a path and below. -/
def Vacant (d : Path) (files : FileTree) : Prop :=
  ∀ q e, files.get? q = some e → q.isBelow d = true → e = .directory

theorem Separate.vacant (separate : Separate s) (rooted : s.files.Rooted)
    (ran : clean s = .ok () t) : Vacant s.layout.output t.files := by
  have emptied := (of_clean ran).1
  have output := separate.apart.output
  intro q e found below
  obtain ⟨names, rfl⟩ := Path.isBelow_iff.1 below
  by_cases top : names = []
  · rw [top, Path.append_nil, Op.resetDirectory_directory output separate.way emptied] at found
    exact (Option.some.inj found).symm
  · cases (Op.resetDirectory_empty output separate.way rooted emptied top).symm.trans found

namespace TemplatesAlone

theorem views (alone : TemplatesAlone s) : s.files.PlainBelow s.layout.views :=
  alone.plain.mono (alone.plain.directory.child (by decide)) (Path.isBelow_child ..)

theorem get?_eq_none (alone : TemplatesAlone s) {name : String} (other : name ≠ "views") {p : Path}
    (below : p.isBelow (s.layout.source.child name) = true) : s.files.get? p = none := by
  cases found : s.files.get? p with
  | none => rfl
  | some e =>
    exfalso
    obtain ⟨names, rfl⟩ := Path.isBelow_iff.1 below
    rcases alone.only _ e found (Path.isBelow_trans below (Path.isBelow_child ..)) with same | under
    · rw [Path.child_append] at same
      exact Path.append_ne_self _ (List.cons_ne_nil _ _) same
    · obtain ⟨names', same⟩ := Path.isBelow_iff.1 under
      rw [Path.child_append, Layout.views, Path.child_append] at same
      exact other (List.cons.inj (Path.append_inj same)).1.symm

theorem filesBelow_eq_nil (alone : TemplatesAlone s) {name : String} (other : name ≠ "views") {d : Path}
    (proper : d.IsProper) (below : d.isBelow (s.layout.source.child name) = true) :
    s.files.filesBelow d = [] := by
  have plain := alone.plain.mono proper (Path.isBelow_trans below (Path.isBelow_child ..))
  refine List.eq_nil_iff_forall_not_mem.2 fun p member => ?_
  obtain ⟨proper, -, under, file⟩ := (mem_filesBelow plain).1 member
  obtain ⟨content, named⟩ := isFile_iff.1 file
  cases (alone.get?_eq_none other (Path.isBelow_trans under below)).symm.trans
    (plain.get? proper under named)

theorem buildCleaned_eq (alone : TemplatesAlone s) (schedule : Schedule) :
    ∃ log routes, buildCleaned schedule s = .ok .empty { s with log, routes } := by
  have assets (name : String) (plain : IsSegment name ∧ name ≠ "..") :
      s.files.filesBelow (s.layout.assets.child name) = [] := by
    refine alone.filesBelow_eq_nil (by decide : "assets" ≠ "views") ?_ (Path.isBelow_child ..)
    exact (alone.plain.directory.child (by decide)).child plain
  refine Build.buildCleaned_eq schedule ?_ ?_ ?_ ?_
  · rw [State.images, sourcesBelow, Layout.images, assets "img" (by decide)]
    rfl
  · rw [Bool.eq_false_iff]
    intro directory
    have named := eq_of_beq directory
    have below : s.layout.vendor.isBelow (s.layout.source.child "vendor") = true :=
      Path.isBelow_refl _
    have proper : s.layout.vendor.IsProper := alone.plain.directory.child (by decide)
    cases (alone.get?_eq_none (by decide) below).symm.trans
      (alone.plain.get? proper (Path.isBelow_child ..) named)
  · rw [State.scripts, sourcesBelow, Layout.scripts, assets "js" (by decide)]
    rfl
  · rw [State.styles, Layout.styles, assets "css" (by decide)]
    rfl

theorem clean (alone : TemplatesAlone s) (rooted : s.files.Rooted) (ran : clean s = .ok () t) :
    TemplatesAlone t := by
  have apart := alone.separate.apart
  have guarded := alone.separate.clean_guarded rooted ran
  have layout := guarded.layout
  refine ⟨⟨?_, guarded.files.proper, ?_⟩, ?_, fun q e found inside => ?_⟩
  · rw [layout, guarded.base]
    exact apart
  · rw [layout]
    exact guarded.files.way
  · rw [layout]
    exact guarded.plain apart alone.plain
  · rw [layout] at inside
    rw [Layout.views, layout]
    exact alone.only q e (guarded.get?_eq apart inside ▸ found) inside

theorem mem_roots_clean (alone : TemplatesAlone s) (rooted : s.files.Rooted)
    (ran : Build.clean s = .ok () t) : root ∈ t.roots ↔ root ∈ s.roots := by
  have apart := alone.separate.apart
  have guarded := alone.separate.clean_guarded rooted ran
  have layout := guarded.layout
  have views := (alone.clean rooted ran).views
  rw [mem_roots views, mem_roots alone.views, hasPage_congr layout]
  rw [layout] at views ⊢
  refine and_congr_right fun proper => and_congr_right fun below => and_congr_left fun _ => ?_
  have inside : root.isBelow s.layout.source = true := Path.isBelow_trans below (Path.isBelow_child ..)
  have here := guarded.get?_eq apart inside
  cases there : s.files.get? root with
  | none =>
    have absent {files : FileTree} (plain : files.PlainBelow s.layout.views)
        (none : files.get? root = none) : files.isFile root = false := by
      refine Bool.eq_false_iff.2 fun file => ?_
      obtain ⟨content, named⟩ := isFile_iff.1 file
      cases none.symm.trans (plain.get? proper below named)
    rw [absent alone.views there, absent views (here.trans there)]
  | some e =>
    rw [Template.isFile_congr (target?_congr proper (alone.views.passes below) fun q above => ?_)]
    -- What lies above the sources may lie above the output too, but there it is a directory.
    rcases Path.isBelow_total above inside with under | higher
    · exact guarded.get?_eq apart under
    · by_cases other : root = q
      · exact other ▸ here
      · have directory := rooted.directory there above other
        rw [directory]
        exact Op.resetDirectory_kept apart.output alone.separate.way (of_clean ran).1
          (apart.not_isBelow (Or.inr higher)) directory

theorem linkless (alone : TemplatesAlone s) (vacant : Vacant s.layout.output s.files) {p : Path}
    (below : p.isBelow s.layout.output = true) : s.files.Linkless p := by
  rintro q above ⟨target, found⟩
  rcases Path.isBelow_total above below with inside | higher
  · cases vacant q _ found inside
  · exact alone.separate.way q higher ⟨target, found⟩

theorem writable (alone : TemplatesAlone s) (vacant : Vacant s.layout.output s.files) :
    Writable s := by
  have apart := alone.separate.apart
  refine ⟨alone.views, apart.output, ⟨apart.not_isBelow (Or.inl (Path.isBelow_child ..)), ?_⟩,
    fun root _ => ⟨alone.linkless vacant (pageFile_isBelow s root), ?_⟩⟩
  · rw [Bool.eq_false_iff]
    exact fun below => absurd (apart.above.symm.trans
      (Path.isBelow_trans below (Path.isBelow_child ..))) Bool.false_ne_true
  · rintro ⟨target, found⟩
    refine nomatch vacant _ _ found (Path.isBelow_trans (Path.isBelow_parent _) ?_)
    rw [Op.parent_temporary]
    exact parent_pageFile_isBelow s root

end TemplatesAlone

/-! ## Answers -/

/-- The name of a root template below the views. -/
def State.templateName (s : State) (root : Path) : String :=
  joinSegments ((root.below? s.layout.views).getD [])

def State.IsPageFile (s : State) (segments : List String) : Prop :=
  ∃ root ∈ s.roots, s.pageFile root = s.layout.output.append segments

instance (s : State) (segments : List String) : Decidable (s.IsPageFile segments) :=
  inferInstanceAs (Decidable (∃ root ∈ s.roots, _))

theorem pageFile_eq (s : State) (proper : root.IsProper) :
    s.pageFile root = s.layout.output.append (Preview.ownSegments (s.templateName root)) := by
  have plain : ∀ segment ∈ (root.below? s.layout.views).getD [], IsSegment segment :=
    fun segment member => (below?_isProper proper segment member).1
  rw [State.pageFile, ← pathSegments_joinSegments _ plain, View.pageFile_eq]
  exact Path.append_append ..

/-- A full build of templates alone that succeeds leaves a page for each root, and no other files. -/
theorem filled_of_buildProject {schedule : Schedule} {r : StageResult} (alone : TemplatesAlone s)
    (rooted : s.files.Rooted) (ran : buildProject schedule s = .ok r u)
    (complete : r.failures = []) :
    ∃ t pages, t.layout = s.layout ∧ Writable t ∧ (∀ root, root ∈ t.roots ↔ root ∈ s.roots) ∧
      pages.failures = [] ∧ Filled t t.roots pages u ∧
        ∀ p, p.isBelow s.layout.output = true → u.files.Linkless p := by
  rw [buildProject_eq_clean] at ran
  obtain ⟨_, t₀, cleaned, ran⟩ := bind_ok_iff.1 ran
  have alone' := alone.clean rooted cleaned
  have layout := (alone.separate.clean_guarded rooted cleaned).layout
  have roots (root : Path) : root ∈ t₀.roots ↔ root ∈ s.roots := alone.mem_roots_clean rooted cleaned
  have vacant := alone.separate.vacant rooted cleaned
  rw [← layout] at vacant
  obtain ⟨log, routes, built⟩ := alone'.buildCleaned_eq schedule
  obtain ⟨_, t, built', ran⟩ := bind_ok_iff.1 ran
  cases built.symm.trans built'
  let t : State := { t₀ with log, routes }
  obtain ⟨pages, u', rendered, ran⟩ := bind_ok_iff.1 ran
  have writable : Writable t :=
    have ⟨views, output, apart, free⟩ := alone'.writable vacant
    ⟨views, output, apart, free⟩
  have filled : Filled t t.roots pages u' := by
    obtain ⟨_, _, got, rendered⟩ := bind_ok_iff.1 rendered
    obtain ⟨rfl, rfl⟩ := get_ok_iff.1 got
    have start : Filled t [] .empty t :=
      ⟨.refl t, fun _ member => (nomatch member), fun _ _ member => (nomatch member),
        fun q content found below => nomatch vacant q _ found below⟩
    exact start.compilePages writable (fun _ => id) rendered
  have result : r.failures = pages.failures ∧ (pages.failures = [] → u' = u) := by
    dsimp only at ran
    split at ran
    · next failed =>
      obtain ⟨_, _, -, ran⟩ := bind_ok_iff.1 ran
      obtain ⟨rfl, -⟩ := pure_ok_iff.1 ran
      refine ⟨rfl, fun none => ?_⟩
      simp [StageResult.ok, StageResult.append, StageResult.empty, none] at failed
    · obtain ⟨rfl, rfl⟩ := pure_ok_iff.1 ran
      exact ⟨rfl, fun _ => rfl⟩
  rw [result.1] at complete
  obtain rfl := result.2 complete
  refine ⟨t, pages, layout, writable, roots, complete, filled, fun p below q above link => ?_⟩
  rw [← layout] at below
  exact alone'.linkless vacant below q above (filled.between.links q link)

def postsIndex : Path := ⟨["src", "views", "posts", "index.html"]⟩

end Folio.Build
