import Folio.Proofs.Build.Project
import Folio.Proofs.FileTree.Same
import Folio.Proofs.Template.Repeat

/-!
# What a full build forgets

A full build reads nothing of an earlier session. Two states of one site whose files agree outside
the output come to the same: the same report, files, routes, fingerprints and dependencies
(`buildProject_forgets`). The output is emptied and the rest of the session is cleared first; after
that the states differ only in the order in which their trees hold the entries and in the log, and
no stage goes by those (`steady_publishImages` and those that follow).
-/

namespace Folio

variable {t t' : FileTree}

/-- Reading a file comes to the same in trees with the same entries. -/
theorem FileTree.Same.content (same : Same t t') (p : Path) :
    (∃ c u u', Op.content p t = .ok c u ∧ Op.content p t' = .ok c u') ∨
      ∃ e u u', Op.content p t = .error e u ∧ Op.content p t' = .error e u' := by
  have mirrored := Op.steady_content p t t' same
  generalize Op.content p t = one at mirrored ⊢
  generalize Op.content p t' = other at mirrored ⊢
  cases mirrored with
  | ok c => exact Or.inl ⟨c, _, _, rfl, rfl⟩
  | error e => exact Or.inr ⟨e, _, _, rfl, rfl⟩

/-! ## Stylesheets -/

namespace Style

section

variable (same : t.Same t')

include same

theorem filesIn_same : filesIn t = filesIn t' := by
  funext directory name
  unfold filesIn
  rw [same.isFile]

theorem findImport_same : findImport t = findImport t' := by
  funext root importer name
  unfold findImport
  rw [filesIn_same same]

theorem readSheet_same : readSheet t = readSheet t' := by
  funext p
  unfold readSheet EStateM.run
  rcases same.content p with ⟨c, u, u', one, other⟩ | ⟨e, u, u', one, other⟩ <;> rw [one, other]

theorem expand_same (root file : Path) (enter : Path → List Sourced × Option Located)
    (statements : List Statement) :
    expand t root file enter statements = expand t' root file enter statements := by
  induction statements with
  | nil => rfl
  | cons s rest ih =>
    unfold expand
    split
    · rfl
    · next heq =>
      obtain ⟨-, rfl⟩ := List.cons.inj heq
      simp only [findImport_same same, ih]
    · next heq =>
      obtain ⟨-, rfl⟩ := List.cons.inj heq
      simp only [ih]

theorem loadWithin_same (root : Path) (room : Nat) (outer : List Path) (file : Path) :
    loadWithin t root room outer file = loadWithin t' root room outer file := by
  induction room generalizing outer file with
  | zero => rfl
  | succ room ih =>
    have enter : loadWithin t root room (file :: outer) = loadWithin t' root room (file :: outer) :=
      funext fun imported => ih _ imported
    unfold loadWithin
    rw [readSheet_same same, enter]
    simp only [expand_same same]

theorem compile_same (base root : Path) (resolve : String → String) (compactly : Bool) (file : Path) :
    compile t base root resolve compactly file = compile t' base root resolve compactly file := by
  unfold compile run load
  rw [loadWithin_same same]

end

end Style

/-! ## Templates -/

namespace Template

variable {site : Site} {files : FileTree}

section

variable (same : site.files.Same files)

include same

theorem inlined_same : inlined { site with files } = inlined site := by
  funext name
  unfold inlined EStateM.run
  dsimp only
  refine congrArg (lookUp _ >>= ·) (funext fun _ => ?_)
  rcases same.content (site.publishedFile (Asset.logicalPath name none)) with
    ⟨c, u, u', one, other⟩ | ⟨e, u, u', one, other⟩
  · rw [Site.publishedFile] at one other
    rw [one, other]
  · rw [Site.publishedFile] at one other
    rw [one, other]
    cases e <;> rfl

theorem ofAsset_same : ofAsset { site with files } = ofAsset site := by
  funext f name isMarkup
  unfold ofAsset
  rw [inlined_same same]
  rfl

theorem applyFunction_same : applyFunction { site with files } = applyFunction site := by
  funext f arguments
  unfold applyFunction applyTo
  rw [ofAsset_same same]

theorem templateFile?_same : Site.templateFile? { site with files } = site.templateFile? := by
  funext name
  unfold Site.templateFile?
  rw [← same.isFile]

theorem load_same : load { site with files } = load site := by
  funext name
  unfold load EStateM.run
  rw [templateFile?_same same]
  cases site.templateFile? name with
  | none => rfl
  | some p =>
    dsimp only
    rcases same.content p with ⟨c, u, u', one, other⟩ | ⟨e, u, u', one, other⟩ <;> rw [one, other]

theorem loadNamed_same : loadNamed { site with files } = loadNamed site := by
  funext v
  unfold loadNamed
  rw [load_same same]

theorem loadFirst_same (missing : Cause) (candidates : List Value) :
    loadFirst { site with files } missing candidates = loadFirst site missing candidates := by
  induction candidates with
  | nil => rfl
  | cons v rest ih =>
    unfold loadFirst
    rw [load_same same, templateFile?_same same, ih]

theorem loadIncluded_same : loadIncluded { site with files } = loadIncluded site := by
  funext v
  unfold loadIncluded
  rw [loadNamed_same same]
  simp only [loadFirst_same same]

end

section

variable {scope : Scope}

theorem Scope.call_same (same : scope.site.files.Same files) :
    Scope.call { scope with site := { scope.site with files } } = scope.call := by
  funext f arguments
  unfold Scope.call
  rw [applyFunction_same same]

theorem Scope.filter_same (same : scope.site.files.Same files) :
    Scope.filter { scope with site := { scope.site with files } } = scope.filter := by
  funext filter v arguments
  unfold Scope.filter
  rw [applyFunction_same same]

mutual

theorem Expr.eval_same (same : scope.site.files.Same files) : ∀ e : Expr,
    e.eval { scope with site := { scope.site with files } } = e.eval scope
  | .text _ | .integer _ | .real _ | .truth _ | .none | .name _ => rfl
  | .member e _ | .negative e | .positive e => by
    simp only [Expr.eval, e.eval_same same]
  | .item a b | .quotient a b => by
    simp only [Expr.eval, a.eval_same same, b.eval_same same]
  | .call f arguments => by
    simp only [Expr.eval, f.eval_same same, arguments.eval_same same, Scope.call_same same]
  | .filtered _ filter e arguments => by
    simp only [Expr.eval, e.eval_same same, arguments.eval_same same, Scope.filter_same same]

theorem Arguments.eval_same (same : scope.site.files.Same files) : ∀ arguments : Arguments,
    arguments.eval { scope with site := { scope.site with files } } = arguments.eval scope
  | .done => rfl
  | .more e rest => by
    simp only [Arguments.eval, e.eval_same same, rest.eval_same same]

end

end

section

variable (same : site.files.Same files)

include same

theorem renderParts_same (bindings : Variables) (deeper : Option (Task → Render String))
    (task : Task) (body : Body) (p : Progress) :
    renderParts { site with files } bindings deeper task body p =
      renderParts site bindings deeper task body p := by
  have evaluated (blocks : Blocks) (e : Expr) :
      e.eval (task.scope { site with files } bindings deeper blocks) =
        e.eval (task.scope site bindings deeper blocks) :=
    @Expr.eval_same files (task.scope site bindings deeper blocks) same e
  induction body generalizing p with
  | done => rfl
  | text s next ih => exact ih _
  | print line e next ih => simp only [renderParts, evaluated, ih]
  | conditional line test yes no next yesIh noIh ih =>
    simp only [renderParts, evaluated, yesIh, noIh, ih]
  | insert line template next ih =>
    simp only [renderParts, evaluated, loadIncluded_same same, ih]
  | inherit line before template next ih =>
    simp only [renderParts, evaluated, loadNamed_same same, ih]
  | block line name body next bodyIh ih => simp only [renderParts, ih]

theorem renderTask_same (bindings : Variables) (depth : Nat) :
    renderTask { site with files } bindings depth = renderTask site bindings depth := by
  induction depth with
  | zero =>
    funext task
    unfold renderTask
    simp only [renderParts_same same]
  | succ depth ih =>
    funext task
    unfold renderTask
    simp only [ih, renderParts_same same]

theorem render_same (bindings : Variables) (name file : String) :
    render { site with files } bindings name file = render site bindings name file := by
  unfold render
  rw [load_same same, renderTask_same same]

end

end Template

namespace Build

open Template

variable {α : Type}

/-! ## Alike states -/

/-- States that differ only in the order of what their trees hold and in the log. -/
inductive Like : State → State → Prop
  | intro (s : State) (files : FileTree) (log : Log) (same : s.files.Same files) :
      Like s { s with files, log }

/-- Whether a step comes to the same in alike states. -/
abbrev Steady (x : Build α) : Prop :=
  Mirrors Like x x

/-- A step that goes on from the state, by what alike states agree on. -/
theorem steady_get_bind {f : State → Build α}
    (unseen : ∀ s files log, s.files.Same files → f { s with files, log } = f s)
    (steady : ∀ s, Steady (f s)) : Steady (get >>= f) := by
  refine .get_bind fun s t like => ?_
  obtain ⟨files, log, same⟩ := like
  rw [unseen s files log same]
  exact steady s

theorem steady_modify {f : State → State}
    (unseen : ∀ s files log, ∃ log', f { s with files, log } = { f s with files, log := log' })
    (kept : ∀ s, (f s).files = s.files) : Steady (modify f : Build Unit) := by
  refine .modify fun s t like => ?_
  obtain ⟨files, log, same⟩ := like
  obtain ⟨log', after⟩ := unseen s files log
  rw [after]
  exact .intro (f s) files log' (by rwa [kept])

theorem steady_onFiles (p : Path) {x : FileTree.Op α} (steady : FileTree.Op.Steady x) :
    Steady (onFiles p x) := by
  rintro s _ ⟨files, log, same⟩
  have mirrored := steady _ _ same
  unfold onFiles
  dsimp only
  generalize x s.files = one at mirrored ⊢
  generalize x files = other at mirrored ⊢
  cases mirrored with
  | ok a same => exact .ok a (.intro { s with files := _ } _ log same)
  | error problem same =>
    cases problem <;> exact .error _ (.intro { s with files := _ } _ log same)

theorem steady_realPathOf (p : Path) : Steady (realPathOf p) := by
  rintro s _ ⟨files, log, same⟩
  have read : realPath files p = realPath s.files p := by
    unfold realPath
    rw [same.realPath]
  unfold realPathOf
  dsimp only
  rw [read]
  cases realPath s.files p with
  | ok q => exact .ok q (.intro s files log same)
  | error abort => exact .error abort (.intro s files log same)

theorem steady_note (line : String) : Steady (note line) :=
  steady_modify (fun _ _ _ => ⟨_, rfl⟩) fun _ => rfl

theorem steady_noteCompiled (path : String) : Steady (noteCompiled path) :=
  steady_modify (fun _ _ _ => ⟨_, rfl⟩) fun _ => rfl

theorem steady_belowOf (p directory : Path) : Steady (belowOf p directory) := by
  unfold belowOf
  cases p.below? directory with
  | none => exact .throw _
  | some segments => exact .pure segments

theorem steady_logicalPathOf (p : Path) : Steady (logicalPathOf p) := by
  refine steady_get_bind (fun _ _ _ _ => rfl) fun s => ?_
  cases s.layout.logicalPath p with
  | none => exact .throw _
  | some path => exact .pure path

theorem steady_failWith (r : StageResult) (f : Fault) : Steady (failWith r f) :=
  (steady_note _).bind fun _ => .pure _

/-! ## Sources -/

theorem steady_removeEarlier (earlier : Option String) (physical : String) :
    Steady (removeEarlier earlier physical) := by
  cases earlier with
  | none => exact .pure ()
  | some old =>
    unfold removeEarlier
    dsimp only
    split
    · exact steady_get_bind (fun _ _ _ _ => rfl) fun _ =>
        steady_onFiles _ (FileTree.Op.steady_remove _)
    · exact .pure ()

theorem steady_published (path : String) (content : Bytes) :
    Steady (modify (·.published path content)) :=
  steady_modify (fun _ _ _ => ⟨_, rfl⟩) fun _ => rfl

theorem steady_made (kind : Kind) (source : Path) (files : List String) (names : Names) :
    Steady (modify (·.made kind source files names)) :=
  steady_modify (fun _ _ _ => ⟨_, rfl⟩) fun _ => rfl

theorem steady_publish (path : String) (content : Bytes) : Steady (publish path content) := by
  refine steady_get_bind (fun _ _ _ _ => rfl) fun s => ?_
  refine (steady_published path content).bind fun _ => ?_
  refine (steady_onFiles _ (FileTree.Op.steady_write _ _)).bind fun _ => ?_
  refine (steady_removeEarlier _ _).bind fun _ => ?_
  exact (steady_noteCompiled path).bind fun _ => .pure _

theorem steady_publishText (source output : Path) (text : String) (names : Names) :
    Steady (publishText source output text names) := by
  refine (steady_logicalPathOf output).bind fun path => ?_
  refine (steady_publish path _).bind fun file => ?_
  exact (steady_made .asset source [] names).bind fun _ => .pure _

/-- Crafts that come to the same in alike states. -/
structure Craft.Steady (craft : Craft) : Prop where
  prepare : ∀ source, Build.Steady (craft.prepare source)
  finish : ∀ source prepared, Build.Steady (craft.finish source prepared)

theorem scriptCraft_steady : scriptCraft.Steady where
  prepare source := (steady_onFiles _ (FileTree.Op.steady_content _)).bind fun _ => .pure _
  finish source content := by
    refine steady_get_bind (fun _ _ _ _ => rfl) fun s => ?_
    cases Text.decodeSource content source.text with
    | error f => exact .pure _
    | ok text =>
      dsimp only
      cases Script.inject s.routes s.store.resolve text with
      | error d => exact .pure _
      | ok injected => exact (steady_belowOf _ _).bind fun _ => steady_publishText _ _ _ _

theorem styleCraft_steady : styleCraft.Steady where
  prepare source := by
    refine steady_get_bind (fun s files log same => ?_) fun s => ?_
    · dsimp only
      rw [← same.isFile, ← Style.compile_same same]
      rfl
    · dsimp only
      split
      · refine (Mirrors.throw _).bind fun _ => ?_
        split <;> exact .pure _
      · split <;> exact .pure _
  finish source prepared := by
    refine steady_get_bind (fun _ _ _ _ => rfl) fun s => ?_
    exact (steady_belowOf _ _).bind fun _ => steady_publishText _ _ _ _

theorem imageCraft_steady : imageCraft.Steady where
  prepare source := by
    refine steady_get_bind (fun _ _ _ _ => rfl) fun s => ?_
    exact (steady_belowOf _ _).bind fun _ => .pure _
  finish source output := by
    refine steady_get_bind (fun _ _ _ _ => rfl) fun s => ?_
    split
    · refine (steady_onFiles _ (FileTree.Op.steady_content _)).bind fun content => ?_
      refine (steady_logicalPathOf output).bind fun path => ?_
      exact (steady_publish path content).bind fun _ => .pure _
    · refine (steady_onFiles _ (FileTree.Op.steady_link _ _)).bind fun _ => ?_
      refine (steady_logicalPathOf output).bind fun path => ?_
      exact (steady_noteCompiled path).bind fun _ => .pure _

/-! ## Lanes -/

theorem steady_conclude (r : StageResult) (o : Outcome) : Steady (Lane.conclude r o) := by
  cases o with
  | error f => exact steady_failWith r f
  | ok file => exact (steady_logicalPathOf file).bind fun _ => .pure _

theorem Craft.Steady.step {craft : Craft} (steady : craft.Steady) (l : Lane craft) :
    Build.Steady l.step := by
  unfold Lane.step
  split
  · exact (steady.finish _ _).bind fun outcome => (steady_conclude _ outcome).bind fun _ => .pure _
  · refine (steady.prepare _).bind fun out => ?_
    cases out with
    | error f => exact (steady_failWith _ f).bind fun _ => .pure _
    | ok prepared => exact .pure _
  · exact .pure l

theorem Craft.Steady.run {craft : Craft} (steady : craft.Steady) (count : Nat) (l : Lane craft) :
    Build.Steady (l.run count) := by
  induction count generalizing l with
  | zero => exact .pure _
  | succ count ih => exact (steady.step l).bind fun l => ih l

theorem steady_runTogether (schedule : Schedule) (a : Lane scriptCraft) (b : Lane styleCraft) :
    Steady (runTogether schedule a b) := by
  induction schedule generalizing a b with
  | nil =>
    refine (scriptCraft_steady.run _ a).bind fun scripts => ?_
    exact (styleCraft_steady.run _ b).bind fun styles => .pure _
  | cons turn rest ih =>
    cases turn with
    | script => exact (scriptCraft_steady.step a).bind fun a => ih a b
    | style => exact (styleCraft_steady.step b).bind fun b => ih a b

/-! ## Stages -/

theorem State.scripts_same {s : State} {files : FileTree} (same : s.files.Same files) (log : Log) :
    ({ s with files, log } : State).scripts = s.scripts := by
  unfold State.scripts sourcesBelow
  rw [← same.filesBelow]

theorem State.styles_same {s : State} {files : FileTree} (same : s.files.Same files) (log : Log)
    (partials : Bool) : ({ s with files, log } : State).styles partials = s.styles partials := by
  unfold State.styles
  rw [← same.filesBelow]

theorem State.images_same {s : State} {files : FileTree} (same : s.files.Same files) (log : Log) :
    ({ s with files, log } : State).images = s.images := by
  unfold State.images sourcesBelow
  rw [← same.filesBelow]

theorem State.templates_same {s : State} {files : FileTree} (same : s.files.Same files) (log : Log) :
    ({ s with files, log } : State).templates = s.templates := by
  unfold State.templates
  rw [← same.filesBelow]

theorem State.roots_same {s : State} {files : FileTree} (same : s.files.Same files) (log : Log) :
    ({ s with files, log } : State).roots = s.roots := by
  unfold State.roots
  rw [State.templates_same same, ← same.resolve]

theorem State.routeEntries_same {s : State} {files : FileTree} (same : s.files.Same files)
    (log : Log) : ({ s with files, log } : State).routeEntries = s.routeEntries := by
  unfold State.routeEntries
  rw [State.templates_same same]

theorem steady_rebuildRoutes : Steady rebuildRoutes := by
  refine steady_get_bind (fun s files log same => ?_) fun s => ?_
  · dsimp only
    rw [State.routeEntries_same same]
  · dsimp only
    have routed : Steady (modify fun u : State =>
        { u with routes := (Route.tableOf s.routeEntries).1 }) :=
      steady_modify (fun _ _ _ => ⟨_, rfl⟩) fun _ => rfl
    exact (Mirrors.forM steady_note).bind fun _ => routed.bind fun _ => .pure _

theorem steady_publishImages : Steady (publishImages none) := by
  refine steady_get_bind (fun s files log same => ?_) fun s => imageCraft_steady.run _ _
  rw [State.images_same same]

theorem steady_publishVendor : Steady publishVendor := by
  refine steady_get_bind (fun s files log same => ?_) fun s => ?_
  · dsimp only
    rw [← same.isDirectory]
    rfl
  · have noted : Steady (do
        let path ← logicalPathOf s.layout.outputVendor
        noteCompiled path
        return { StageResult.empty with outputs := [path] }) :=
      (steady_logicalPathOf _).bind fun path => (steady_noteCompiled path).bind fun _ => .pure _
    dsimp only
    split
    · exact .pure _
    · split
      · exact (steady_onFiles _ (FileTree.Op.steady_copy _ _)).bind fun _ => noted
      · exact (steady_onFiles _ (FileTree.Op.steady_link _ _)).bind fun _ => noted

theorem steady_compileAssets (schedule : Schedule) : Steady (compileAssets schedule) := by
  refine steady_get_bind (fun s files log same => ?_) fun s => steady_runTogether _ _ _
  rw [State.scripts_same same, State.styles_same same]

theorem steady_compilePage (root : Path) (more : Variables) : Steady (compilePage root more) := by
  refine (steady_realPathOf root).bind fun root => ?_
  refine steady_get_bind (fun s files log same => ?_) fun s => ?_
  · refine congrArg (belowOf root s.layout.views >>= ·) (funext fun segments => ?_)
    have page : s.templateSite.files.Same files := same
    have rendered (bindings : Variables) (name file : String) :
        render ({ s with files, log } : State).templateSite bindings name file =
          render s.templateSite bindings name file := render_same page bindings name file
    dsimp only
    rw [rendered, ← same.resolve]
    rfl
  · refine (steady_belowOf _ _).bind fun segments => ?_
    dsimp only
    split
    · exact .throw _
    · exact .pure _
    · exact .pure _
    · exact (steady_made .page root _ _).bind fun _ => .pure _

theorem steady_addPage (root : Path) (r : StageResult) : Steady (addPage root r) := by
  refine (steady_compilePage root []).bind fun out => ?_
  cases out with
  | error f => exact steady_failWith r f
  | ok page =>
    refine steady_get_bind (fun _ _ _ _ => rfl) fun s => ?_
    refine (steady_belowOf _ _).bind fun segments => ?_
    refine (steady_onFiles _ (FileTree.Op.steady_write _ _)).bind fun _ => ?_
    refine (steady_logicalPathOf _).bind fun path => ?_
    exact (steady_noteCompiled path).bind fun _ => .pure _

theorem steady_compilePages (roots : List Path) (r : StageResult) :
    Steady (compilePages roots r) := by
  induction roots generalizing r with
  | nil => exact .pure r
  | cons root rest ih => exact (steady_addPage root r).bind fun r => ih r

theorem steady_compileAllPages : Steady compileAllPages := by
  refine steady_get_bind (fun s files log same => ?_) fun s => steady_compilePages _ _
  rw [State.roots_same same]

/-! ## Full builds -/

/-- What a full build does in the empty output. -/
def buildEmptied (schedule : Schedule) : Build StageResult := do
  let assets ← buildCleaned schedule
  let pages ← compileAllPages
  let report := assets.append pages
  if !report.ok then note s!"Build finished with {report.failures.length} error(s)"
  return report

theorem steady_buildEmptied (schedule : Schedule) : Steady (buildEmptied schedule) := by
  have cleaned : Steady (buildCleaned schedule) := by
    refine steady_rebuildRoutes.bind fun _ => steady_publishImages.bind fun images => ?_
    refine steady_publishVendor.bind fun vendor => ?_
    exact (steady_compileAssets schedule).bind fun assets => .pure _
  refine cleaned.bind fun assets => steady_compileAllPages.bind fun pages => ?_
  dsimp only
  split
  · exact (steady_note _).bind fun _ => .pure _
  · exact .pure _

/-- States of one site in one mode, whose files agree outside the output. Whatever else a session
keeps may differ. -/
structure SameSite (s t : State) : Prop where
  base : t.base = s.base
  layout : t.layout = s.layout
  environment : t.environment = s.environment
  enabled : t.store.enabled = s.store.enabled
  outside : ∀ p, p.isBelow s.layout.output = false → s.files.get? p = t.files.get? p

variable {s t s' t' : State}

/-- Once the output is emptied nothing is left of what two sessions of a site differ in. -/
theorem SameSite.clean (site : SameSite s t) (tree : s.files.IsTree) (tree' : t.files.IsTree)
    (ran : clean s = .ok () s') (ran' : clean t = .ok () t') : Like s' t' := by
  obtain ⟨reset, after⟩ := of_clean ran
  obtain ⟨reset', after'⟩ := of_clean ran'
  have same : s'.files.Same t'.files :=
    FileTree.Op.resetDirectory_same tree tree' site.outside reset (site.layout ▸ reset')
  have like : t' = { s' with files := t'.files, log := t'.log } := by
    rw [after, after']
    obtain ⟨base, layout, environment, enabled, -⟩ := site
    simp only [State.cleaned, Asset.Store.clear, base, layout, environment, enabled]
  rw [like]
  exact .intro s' t'.files t'.log same

/-- A site with a page and a script. -/
def smallSite : State :=
  productionSite [(["views"], .directory), (["views", "index.html"], 
      textFile "\x7b\x7b asset_path('a.js') \x7d\x7d"),
    (["assets"], .directory), (["assets", "js"], .directory),
    (["assets", "js", "a.js"], textFile "root_path")]

/-- The same site after some session, with a link in place of its output. -/
def usedSite : State :=
  { smallSite with
    files := ⟨(⟨["public"]⟩, .link "src/views") :: smallSite.files.entries⟩
    routes := [("old_path", "/old")]
    store := ⟨true, [("/assets/js/a.js", "/assets/js/a-0123456789.js")]⟩
    dependencies := smallSite.dependencies.record smallSite.base "/src/views/old.html"
      ["/public/assets/js/a.js"] }

end Build

end Folio
