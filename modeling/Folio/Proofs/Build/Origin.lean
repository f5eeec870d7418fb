import Folio.Proofs.Build.Batch
import Folio.Proofs.Build.Lane

/-!
# Where outputs come from

Each output that a full build lists, vendor files apart, belongs to a source that was a file when
the build began (`tracks_buildCleaned`). The dependency index holds no names but those of sources, so
that the same can be said of batches, which make again what the index tells.
-/

namespace Folio

namespace FileTree

/-- Whether what lies at a path is a file. -/
def HasFile (t : FileTree) (p : Path) : Prop :=
  ∃ content, t.get? p = some (.file content)

instance (t : FileTree) (p : Path) : Decidable (t.HasFile p) :=
  decidable_of_iff ((t.get? p).any fun e => !(e == .directory) && !e.isLink) <| by
    unfold HasFile
    cases t.get? p with
    | none => simp
    | some e => cases e <;> simp [Entry.isLink]

end FileTree

namespace Build

open FileTree Dependencies

/-! ## Sources and their outputs -/

/-- Which file of the output a source is made into. -/
inductive Makes (l : Layout) : Path → Path → Prop
  | page {names : List String} (page : View.isPage (joinSegments names) = true) :
      Makes l (l.views.append names) (l.pageFile names)
  | script {names : List String} (whole : Asset.isPartial names = false)
      (extension : scriptExtensions.contains
        (Text.lower (Name.extension (l.scripts.append names).name)) = true) :
      Makes l (l.scripts.append names) (l.outputScripts.append names)
  | style {names : List String} (whole : Style.isPartial (l.styles.append names).name = false)
      (extension : styleExtensions.contains (Name.extension (l.styles.append names).name) = true) :
      Makes l (l.styles.append names) ((l.outputStyles.append names).withName
        (Style.outputName (l.outputStyles.append names).name))
  | image {names : List String} (image : isImageName (l.images.append names).name = true) :
      Makes l (l.images.append names) (l.outputImages.append names)

/-- Whether a public path is the one that a source is published under. -/
def Belongs (l : Layout) (p : Path) (path : String) : Prop :=
  ∃ file, Makes l p file ∧ l.logicalPath file = some path

def IsSource (l : Layout) (p : Path) : Prop :=
  ∃ file, Makes l p file

/-- Whether a name is the text of a source's path. -/
def IsSourceName (l : Layout) (name : String) : Prop :=
  ∃ p : Path, p.IsProper ∧ p.text = name ∧ IsSource l p

/-- Whether a file is the one that a path has if it is that of a source, directory by directory. -/
structure Destined (l : Layout) (p file : Path) : Prop where
  page : ∀ names, l.views.append names = p → file = l.pageFile names
  script : ∀ names, l.scripts.append names = p → file = l.outputScripts.append names
  style : ∀ names, l.styles.append names = p → file = (l.outputStyles.append names).withName
    (Style.outputName (l.outputStyles.append names).name)
  image : ∀ names, l.images.append names = p →
    isImageName p.name = true ∧ file = l.outputImages.append names

section Sources

variable {l : Layout} {p file : Path} {names : List String}

namespace Makes

theorem inside (makes : Makes l p file) : p.isBelow l.source = true := by
  cases makes <;>
    simp only [Layout.views, Layout.scripts, Layout.styles, Layout.images, Layout.assets,
      Path.child_append] <;>
    exact Path.isBelow_append ..

theorem below (makes : Makes l p file) : file.isBelow l.output = true := by
  cases makes with
  | page => exact l.pageFile_isBelow _
  | script => exact l.outputScripts_append _ ▸ Path.isBelow_append ..
  | style => exact outputStyles_withName l _ ▸ Path.isBelow_append ..
  | image => exact l.outputImages_append _ ▸ Path.isBelow_append ..

/-- Where a source lies tells what file it is made into. -/
theorem destined (makes : Makes l p file) : Destined l p file := by
  cases makes <;> constructor <;> intro names here <;>
    simp only [Layout.views, Layout.scripts, Layout.styles, Layout.images, Layout.assets,
      Path.child_append] at here <;>
    have same := Path.append_inj here <;> simp at same
  all_goals subst same
  · rfl
  · rfl
  · rfl
  · next image => exact ⟨image, rfl⟩

end Makes

theorem isSource_page (views : p.isBelow l.views = true)
    (page : (p.below? l.views).any (fun segments => View.isPage (joinSegments segments)) = true) :
    IsSource l p := by
  obtain ⟨names, rfl⟩ := Path.isBelow_iff.1 views
  rw [Path.below?_append, Option.any_some] at page
  exact ⟨_, .page page⟩

theorem isSource_script (scripts : p.isBelow l.scripts = true)
    (whole : (p.below? l.scripts).any Asset.isPartial = false)
    (extension : scriptExtensions.contains (Text.lower (Name.extension p.name)) = true) :
    IsSource l p := by
  obtain ⟨names, rfl⟩ := Path.isBelow_iff.1 scripts
  rw [Path.below?_append, Option.any_some] at whole
  exact ⟨_, .script whole extension⟩

theorem isSource_style (styles : p.isBelow l.styles = true) (whole : Style.isPartial p.name = false)
    (extension : styleExtensions.contains (Name.extension p.name) = true) : IsSource l p := by
  obtain ⟨names, rfl⟩ := Path.isBelow_iff.1 styles
  exact ⟨_, .style whole extension⟩

theorem isSource_image (images : p.isBelow l.images = true) (image : isImageName p.name = true) :
    IsSource l p := by
  obtain ⟨names, rfl⟩ := Path.isBelow_iff.1 images
  exact ⟨_, .image image⟩

end Sources

/-! ## What a build keeps -/

/-- What a build keeps while it works: the site is guarded, and all that is recorded are sources. -/
structure Tracked (l : Layout) (base : Path) (production : Bool) (t₀ : FileTree) (s : State) :
    Prop where
  guarded : Guarded l base production t₀ s
  sources : ∀ source files, s.dependencies.edges.lookup source = some files → IsSourceName l source

/-- Whether a file of the output is that of a source, which is a file of a tree. -/
def IsOutput (l : Layout) (t : FileTree) (file : Path) : Prop :=
  ∃ p, Makes l p file ∧ t.HasFile p

/-- Whether all that a result lists is the public path of vendor files or that of a source, which is
a file of a tree. -/
def Sourced (l : Layout) (t : FileTree) (r : StageResult) : Prop :=
  ∀ path ∈ r.outputs,
    l.logicalPath l.outputVendor = some path ∨ ∃ p, Belongs l p path ∧ t.HasFile p

section Steps

variable {α : Type} {l : Layout} {base : Path} {production : Bool} {t₀ : FileTree} {s : State}
  {p : Path} {names : List String} {r : StageResult}

theorem sourced_empty : Sourced l t₀ .empty :=
  fun _ member => nomatch member

theorem Sourced.append {more : StageResult} (first : Sourced l t₀ r) (second : Sourced l t₀ more) :
    Sourced l t₀ (r.append more) :=
  fun path member => (List.mem_append.1 member).elim (first path) (second path)

theorem Sourced.addOutput (sourced : Sourced l t₀ r) {file : Path} {path : String}
    (output : IsOutput l t₀ file) (logical : l.logicalPath file = some path) :
    Sourced l t₀ (r.addOutput path file) := by
  obtain ⟨p, makes, there⟩ := output
  intro other member
  rcases List.mem_append.1 member with member | member
  · exact sourced other member
  · obtain rfl := List.mem_singleton.1 member
    exact Or.inr ⟨p, ⟨file, makes, logical⟩, there⟩

/-- Steps that keep a site tracked, however they end. -/
abbrev Tracks (l : Layout) (base : Path) (production : Bool) (t₀ : FileTree) (Q : α → Prop)
    (x : Build α) : Prop :=
  Keeps (Tracked l base production t₀) (fun _ _ => True) Q x

/-- Steps that guard a site and leave the dependency index keep the site tracked. -/
theorem tracks_of_guards {x : Build α} {Q : α → Prop}
    (guards : Guards l base production t₀ (fun _ => True) x) (leaves : ∀ s, Leaves s x)
    (value : ∀ s a t, Tracked l base production t₀ s → x s = .ok a t → Q a) :
    Tracks l base production t₀ Q x := by
  refine .intro (fun s a t tracked ran => ?_) fun s e t tracked ran => ?_
  · obtain ⟨⟨same, -⟩, -⟩ := (leaves s).ok ⟨rfl, rfl, rfl⟩ ran
    exact ⟨⟨(guards.ok tracked.guarded ran).1, same ▸ tracked.sources⟩, value s a t tracked ran⟩
  · obtain ⟨⟨same, -⟩, -⟩ := (leaves s).error ⟨rfl, rfl, rfl⟩ ran
    exact ⟨⟨(guards.error tracked.guarded ran).1, same ▸ tracked.sources⟩, trivial⟩

theorem tracks_note (line : String) : Tracks l base production t₀ (fun _ => True) (note line) :=
  tracks_of_guards (guards_note line) (fun _ => leaves_note line) fun _ _ _ _ _ => trivial

theorem tracks_noteCompiled (path : String) :
    Tracks l base production t₀ (fun _ => True) (noteCompiled path) :=
  tracks_of_guards (guards_noteCompiled path) (fun _ => .modify fun _ kept => kept)
    fun _ _ _ _ _ => trivial

theorem tracks_failWith (sourced : Sourced l t₀ r) (f : Fault) :
    Tracks l base production t₀ (Sourced l t₀) (failWith r f) :=
  (tracks_note _).bind fun _ _ => .pure sourced

theorem Tracked.layout (tracked : Tracked l base production t₀ s) : s.layout = l :=
  tracked.guarded.layout

theorem tracks_publish (apart : Apart l base) (proper : p.IsProper) (below : p ≠ Path.root)
    (clear : Clear production p.segments) (content : Bytes) :
    Tracks l base production t₀ (· = l.output.append p.segments) (publish p.text content) :=
  tracks_of_guards ((guards_publish apart proper below clear content).mono fun _ _ => trivial)
    (fun _ => leaves_publish _ _) fun s file t tracked ran => by
      rw [(publish_ok ran).1, tracked.layout, l.outputFile_text proper.plain]

theorem Tracked.made (tracked : Tracked l base production t₀ s) (kind : Kind) (proper : p.IsProper)
    (source : IsSource l p) (files : List String) (names : Names) :
    Tracked l base production t₀ (s.made kind p files names) :=
  ⟨tracked.guarded.made kind proper files names,
    named_made tracked.sources ⟨p, proper, (proper.normalize_eq s.base).symm, source⟩⟩

/-- What is made of a source is its output. -/
theorem tracks_publishText (apart : Apart l base) (clear : Clear production names)
    (proper : (Path.mk names).IsProper) (some : names ≠ []) (own : p.IsProper)
    (source : IsSource l p) (text : String) (lookups : Names) :
    Tracks l base production t₀ (fun o => ∀ file, o = .ok file → file = l.output.append names)
      (publishText p (l.output.append names) text lookups) := by
  refine keeps_publishText (fun _ tracked => tracked.layout) some ?_
    fun s tracked => tracked.made .asset own source [] lookups
  refine (tracks_publish apart proper (fun top => some (congrArg Path.segments top)) clear _).mono
    fun file here other same => ?_
  cases same
  exact here

theorem tracks_rebuildRoutes : Tracks l base production t₀ (fun _ => True) rebuildRoutes :=
  .get_bind fun _ _ => (Keeps.forM fun line _ => tracks_note line).bind fun _ _ =>
    Keeps.bind (Q := fun _ => True)
      (.modify fun _ tracked => ⟨{ tracked.guarded with }, tracked.sources⟩) fun _ _ =>
        .pure trivial

theorem tracks_publishVendor (apart : Apart l base) :
    Tracks l base production t₀ (Sourced l t₀) publishVendor := by
  refine tracks_of_guards (guards_publishVendor apart) (fun _ => leaves_publishVendor)
    fun s r t tracked ran => ?_
  obtain ⟨_, _, got, ran⟩ := bind_ok_iff.1 ran
  obtain ⟨rfl, rfl⟩ := get_ok_iff.1 got
  dsimp only at ran
  split at ran
  · obtain ⟨rfl, -⟩ := pure_ok_iff.1 ran
    exact sourced_empty
  · obtain ⟨_, s₁, linked, ran⟩ := bind_ok_iff.1 ran
    obtain ⟨path, s₂, logical, ran⟩ := bind_ok_iff.1 ran
    obtain ⟨_, s₃, noted, ran⟩ := bind_ok_iff.1 ran
    obtain ⟨rfl, -⟩ := pure_ok_iff.1 ran
    have layout : s₁.layout = s.layout := by
      split at linked
      · exact (quiet_onFiles _ _ _ _ _ linked).layout
      · exact (quiet_onFiles _ _ _ _ _ linked).layout
    intro other member
    obtain rfl := List.mem_singleton.1 member
    have logical := (logicalPathOf_ok logical).1
    rw [layout, tracked.guarded.layout] at logical
    exact Or.inl logical

/-! ## Crafts -/

/-- Whether what is finished of a source is the output of a source. -/
abbrev Ends (l : Layout) (base : Path) (production : Bool) (t₀ : FileTree) (craft : Craft)
    (p : Path) (prepared : craft.Prepared) : Prop :=
  craft.Ends (Tracked l base production t₀) (fun _ _ => True) (IsOutput l t₀) p prepared

/-- Whether a craft makes a source into the output of a source. -/
abbrev Yields (l : Layout) (base : Path) (production : Bool) (t₀ : FileTree) (craft : Craft)
    (p : Path) : Prop :=
  craft.Yields (Tracked l base production t₀) (fun _ _ => True) (IsOutput l t₀) p

/-- Whether the sources lie apart from the output, hold no links and are tame outside production. -/
structure Settled (l : Layout) (base : Path) (production : Bool) (t₀ : FileTree) : Prop where
  apart : Apart l base
  tame : production = true ∨ Tame l t₀
  plain : t₀.PlainBelow l.source

variable (settled : Settled l base production t₀)

include settled

theorem Tracked.plain (tracked : Tracked l base production t₀ s) : s.files.PlainBelow l.source :=
  tracked.guarded.plain settled.apart settled.plain

/-- A source that is a file was one at the start. -/
theorem Tracked.hasFile (tracked : Tracked l base production t₀ s) (proper : p.IsProper)
    (inside : p.isBelow l.source = true) (file : s.files.isFile p = true) : t₀.HasFile p := by
  obtain ⟨content, named⟩ := isFile_iff.1 file
  have there := (tracked.plain settled).get? proper inside named
  exact ⟨content, tracked.guarded.get?_eq settled.apart inside ▸ there⟩

theorem tracks_readFile (proper : p.IsProper) (inside : p.isBelow l.source = true) :
    Tracks l base production t₀ (fun _ => t₀.HasFile p) (readFile p) :=
  tracks_of_guards (guards_readFile p) (fun _ => leaves_onFiles _ _)
    fun _ content _ tracked ran => by
      obtain ⟨named, -⟩ := Template.content_ok_iff.1 (onFiles_ok ran).1
      exact tracked.hasFile settled proper inside (isFile_iff.2 ⟨content, named⟩)

theorem scriptCraft_yields (proper : p.IsProper) (source : IsSource l p) :
    Yields l base production t₀ scriptCraft p := by
  obtain ⟨file, makes⟩ := source
  refine (tracks_readFile settled proper makes.inside).bind fun content there => .pure ?_
  rintro _ ⟨⟩
  refine keeps_scriptFinish (fun _ tracked => tracked.layout) (fun _ _ same => nomatch same)
    (fun _ _ _ => trivial) fun segments below text lookups => ?_
  have place : (Path.mk ("assets" :: "js" :: segments)).IsProper := by
    simpa [Path.IsProper] using ⟨by decide, by decide, proper_below (below ▸ proper)⟩
  refine (tracks_publishText settled.apart (clear_assets (by decide) segments) place (by simp)
    proper ⟨file, makes⟩ text lookups).mono fun o ends made same => ⟨p, ?_, there⟩
  rw [ends made same, ← l.outputScripts_append, ← makes.destined.script segments below]
  exact makes

theorem styleCraft_yields (proper : p.IsProper) (source : IsSource l p) :
    Yields l base production t₀ styleCraft p := by
  obtain ⟨file, makes⟩ := source
  have finish (there : t₀.HasFile p) (prepared : String × Names) :
      Ends l base production t₀ styleCraft p prepared := by
    refine keeps_styleFinish (fun _ tracked => tracked.layout) (fun _ _ _ => trivial)
      fun segments below => ?_
    refine (tracks_publishText settled.apart (clear_sheetNames segments)
      (sheetNames_isProper (below ▸ proper)) (sheetNames_ne_nil segments) proper ⟨file, makes⟩
      _ _).mono fun o ends made same => ⟨p, ?_, there⟩
    rw [ends made same, ← outputStyles_withName, ← makes.destined.style segments below]
    exact makes
  refine keeps_stylePrepare (fun _ _ _ => trivial) fun s tracked named out prepared _ => ?_
  exact finish (tracked.hasFile settled proper makes.inside named) prepared

theorem imageCraft_yields (proper : p.IsProper) (source : IsSource l p) (there : t₀.HasFile p) :
    Yields l base production t₀ imageCraft p := by
  obtain ⟨file, makes⟩ := source
  refine keeps_imagePrepare (fun _ tracked => tracked.layout) (fun _ _ _ => trivial)
    fun segments below => ?_
  obtain ⟨image, made⟩ := makes.destined.image segments below
  have own : IsOutput l t₀ (l.output.append ("assets" :: "img" :: segments)) :=
    ⟨p, l.outputImages_append segments ▸ made ▸ makes, there⟩
  have clear : Clear production ("assets" :: "img" :: segments) := by
    rcases settled.tame with rfl | tame
    · exact clear_production _
    · obtain ⟨content, found⟩ := there
      exact (tame.images segments _ (below.symm ▸ found)).of_linked
  subst below
  have place : (Path.mk ("assets" :: "img" :: segments)).IsProper := by
    simpa [Path.IsProper] using ⟨by decide, by decide, proper_below proper⟩
  refine keeps_imageFinish (fun _ tracked => tracked.layout) tracks_noteCompiled (by simp)
    ((tracks_readFile settled proper makes.inside).mono fun _ _ => trivial)
    (fun _ _ _ content => ?_) fun s tracked mode => ?_
  · refine (tracks_publish settled.apart place (by simp [Path.root]) clear content).mono
      fun file here other same => ?_
    cases same
    exact here ▸ own
  · refine tracks_of_guards
      (guards_linkImage settled.apart proper image clear (tracked.guarded.mode ▸ mode) _)
      (fun _ => leaves_onFiles _ _) fun _ _ _ _ _ => ?_
    rintro _ ⟨⟩
    exact own

end Steps

/-! ## Lanes -/

section Lanes

variable {l : Layout} {base : Path} {production : Bool} {t₀ : FileTree} {craft : Craft}

theorem collects_sourced : Collects l (IsOutput l t₀) (Sourced l t₀) where
  below _ output := output.choose_spec.1.below
  empty := sourced_empty
  append _ _ first second := first.append second
  addOutput _ _ _ sourced output logical := sourced.addOutput output logical
  addFailure _ _ sourced := sourced

theorem tracks_runAll {sources : List Path}
    (each : ∀ source ∈ sources, Yields l base production t₀ craft source) :
    Tracks l base production t₀ (Sourced l t₀) (runAll craft sources) :=
  collects_sourced.runAll tracks_note (fun _ tracked => tracked.layout) each

theorem tracks_runTogether {schedule : Schedule} {scripts styles : List Path}
    (script : ∀ source ∈ scripts, Yields l base production t₀ scriptCraft source)
    (style : ∀ source ∈ styles, Yields l base production t₀ styleCraft source) :
    Tracks l base production t₀ (Sourced l t₀)
      (runTogether schedule (.start scriptCraft scripts) (.start styleCraft styles)) :=
  collects_sourced.runTogether tracks_note (fun _ tracked => tracked.layout)
    (collects_sourced.start script) (collects_sourced.start style)

end Lanes

/-! ## Builds -/

section Builds

variable {l : Layout} {base : Path} {production : Bool} {t₀ : FileTree} {s : State} {p : Path}
  {r : StageResult} (settled : Settled l base production t₀)

include settled

theorem tracks_realPathOf (proper : p.IsProper) (inside : p.isBelow l.source = true) :
    Tracks l base production t₀ (· = p) (realPathOf p) :=
  keeps_realPathOf (fun s q tracked found => by
    rw [← (tracked.plain settled).resolve_eq proper inside]
    exact (realPath_eq_resolve (realPath_ok_iff.1 found)).symm) fun _ _ _ _ => trivial

theorem tracks_compilePage (proper : p.IsProper) (source : IsSource l p) :
    Tracks l base production t₀ (fun _ => True) (compilePage p []) := by
  obtain ⟨file, makes⟩ := source
  refine keeps_compilePage (tracks_realPathOf settled proper makes.inside)
    fun q here s files lookups tracked => ?_
  subst here
  exact tracked.made .page proper ⟨file, makes⟩ files lookups

/-- The page of a source is that of a file. -/
theorem tracks_addPage (sourced : Sourced l t₀ r) (proper : p.IsProper) (source : IsSource l p)
    (there : t₀.HasFile p) : Tracks l base production t₀ (Sourced l t₀) (addPage p r) := by
  obtain ⟨file, makes⟩ := source
  refine keeps_addPage (fun _ tracked => tracked.layout)
    (tracks_compilePage settled proper ⟨file, makes⟩) (tracks_failWith sourced)
    (fun segments below content => ?_) tracks_noteCompiled fun segments below path logical => ?_
  · have clear : Clear production segments := by
      rcases settled.tame with rfl | tame
      · exact clear_production _
      · obtain ⟨content, found⟩ := there
        exact (tame.views segments _ (below.symm ▸ found)).of_linked
    exact tracks_of_guards
      (guards_writePage settled.apart clear (proper_below (below ▸ proper)) content)
      (fun _ => leaves_onFiles _ _) fun _ _ _ _ _ => trivial
  · exact sourced.addOutput ⟨p, makes.destined.page segments below ▸ makes, there⟩ logical

theorem tracks_compilePages {roots : List Path} (sourced : Sourced l t₀ r)
    (each : ∀ root ∈ roots, root.IsProper ∧ IsSource l root ∧ t₀.HasFile root) :
    Tracks l base production t₀ (Sourced l t₀) (compilePages roots r) := by
  induction roots generalizing r with
  | nil => exact .pure sourced
  | cons root rest ih =>
    obtain ⟨⟨proper, source, there⟩, later⟩ := List.forall_mem_cons.1 each
    refine (tracks_addPage settled sourced proper source there).bind fun r sourced => ?_
    exact ih sourced later

/-! ### What lies below the sources -/

theorem Tracked.script (tracked : Tracked l base production t₀ s) (listed : p ∈ s.scripts) :
    p.IsProper ∧ IsSource l p := by
  obtain ⟨below, script⟩ := List.mem_filter.1 listed
  rw [tracked.guarded.layout] at below script
  obtain ⟨extension, whole⟩ := Bool.and_eq_true_iff.1 script
  exact ⟨tracked.guarded.files.mem_filesBelow settled.apart.scripts below,
    isSource_script (isBelow_of_mem_filesBelow below) (by simpa using whole) extension⟩

theorem Tracked.style (tracked : Tracked l base production t₀ s) (listed : p ∈ s.styles false) :
    p.IsProper ∧ IsSource l p := by
  obtain ⟨below, style⟩ := List.mem_filter.1 listed
  rw [tracked.guarded.layout] at below
  obtain ⟨extension, whole⟩ := Bool.and_eq_true_iff.1 style
  exact ⟨tracked.guarded.files.mem_filesBelow settled.apart.styles below,
    isSource_style (isBelow_of_mem_filesBelow below) (by simpa using whole) extension⟩

theorem Tracked.image (tracked : Tracked l base production t₀ s) (listed : p ∈ s.images) :
    p.IsProper ∧ IsSource l p ∧ t₀.HasFile p := by
  obtain ⟨below, image⟩ := List.mem_filter.1 listed
  rw [tracked.guarded.layout] at below
  have proper := tracked.guarded.files.mem_filesBelow settled.apart.images below
  have source := isSource_image (isBelow_of_mem_filesBelow below) (Bool.and_eq_true_iff.1 image).1
  obtain ⟨file, makes⟩ := source
  exact ⟨proper, ⟨file, makes⟩,
    tracked.hasFile settled proper makes.inside (List.mem_filter.1 below).2⟩

theorem Tracked.root (tracked : Tracked l base production t₀ s) (listed : p ∈ s.roots) :
    p.IsProper ∧ IsSource l p ∧ t₀.HasFile p := by
  have plain := (tracked.plain settled).mono settled.apart.views (Path.isBelow_child ..)
  have views : s.files.PlainBelow s.layout.views := tracked.guarded.layout.symm ▸ plain
  obtain ⟨proper, below, file, page⟩ := (mem_roots views).1 listed
  rw [hasPage_eq, tracked.guarded.layout] at page
  rw [tracked.guarded.layout] at below
  obtain ⟨made, makes⟩ := isSource_page below page
  exact ⟨proper, ⟨made, makes⟩, tracked.hasFile settled proper makes.inside file⟩

theorem tracks_buildCleaned (schedule : Schedule) :
    Tracks l base production t₀ (Sourced l t₀) (do
      let assets ← buildCleaned schedule
      let pages ← compileAllPages
      let report := assets.append pages
      if !report.ok then note s!"Build finished with {report.failures.length} error(s)"
      return report) := by
  have images : Tracks l base production t₀ (Sourced l t₀) (publishImages none) :=
    .get_bind fun s tracked => tracks_runAll fun p listed =>
      have ⟨proper, source, there⟩ := tracked.image settled listed
      imageCraft_yields settled proper source there
  have assets : Tracks l base production t₀ (Sourced l t₀) (compileAssets schedule) :=
    .get_bind fun s tracked => tracks_runTogether
      (fun p listed =>
        have ⟨proper, source⟩ := tracked.script settled listed
        scriptCraft_yields settled proper source)
      fun p listed =>
        have ⟨proper, source⟩ := tracked.style settled listed
        styleCraft_yields settled proper source
  have pages : Tracks l base production t₀ (Sourced l t₀) compileAllPages :=
    .get_bind fun s tracked => tracks_compilePages settled sourced_empty fun root listed =>
      tracked.root settled listed
  have cleaned : Tracks l base production t₀ (Sourced l t₀) (buildCleaned schedule) :=
    tracks_rebuildRoutes.bind fun _ _ => images.bind fun images one =>
      (tracks_publishVendor settled.apart).bind fun vendor two => assets.bind fun assets three =>
        .pure ((one.append two).append three)
  refine cleaned.bind fun assets one => pages.bind fun pages two => ?_
  dsimp only
  split
  · exact (tracks_note _).bind fun _ _ => .pure (one.append two)
  · exact .pure (one.append two)

end Builds

end Build

end Folio
