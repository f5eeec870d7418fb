import Folio.Proofs.Build.Identity
import Folio.Proofs.Build.Lane

/-!
# Public paths and output files

`logicalPath` and `outputFile` are inverse to one another: on all files below the output, and on the
public paths, which are the absolute paths without empty and dot segments (`logicalPath_outputFile`).
A file of the output that is published has a path in normal form, so that its key in the dependency
index tells its public path (`outputs_correspond`).
-/

namespace Folio

open Text

/-! ## Public paths -/

/-- Whether a text is an absolute path without empty and dot segments. -/
def IsPublic (path : String) : Prop :=
  ∃ pieces, pieces ≠ [] ∧ splitOn '/' path.toList = [] :: pieces ∧
    ∀ piece ∈ pieces, piece ≠ [] ∧ piece ≠ ['.']

theorem toList_path_text (p : Path) :
    p.text.toList = '/' :: joinWith '/' (p.segments.map String.toList) := by
  simp [Path.text, joinSegments]

/-- The public paths are the texts of the paths of some segments. -/
theorem isPublic_iff {path : String} :
    IsPublic path ↔ ∃ p : Path, p ≠ Path.root ∧ p.IsSegmented ∧ p.text = path := by
  constructor
  · rintro ⟨pieces, some, split, plain⟩
    refine ⟨⟨pieces.map String.ofList⟩, fun top => some ?_, fun segment member => ?_, ?_⟩
    · exact List.map_eq_nil_iff.1 (congrArg Path.segments top)
    · obtain ⟨piece, listed, rfl⟩ := List.mem_map.1 member
      have absent := not_mem_of_mem_splitOn (split ▸ List.mem_cons_of_mem _ listed)
      refine ⟨fun empty => (plain piece listed).1 ?_, fun dot => (plain piece listed).2 ?_, ?_⟩
      · simpa using congrArg String.toList empty
      · simpa using congrArg String.toList dot
      · rwa [String.toList_ofList]
    · have back : String.toList ∘ String.ofList = id := funext fun _ => String.toList_ofList
      have whole := joinWith_splitOn '/' path.toList
      rw [split] at whole
      apply String.toList_injective
      rw [toList_path_text, List.map_map, back, List.map_id, ← whole]
      cases pieces with
      | nil => exact absurd rfl some
      | cons first rest => rfl
  · rintro ⟨p, below, segmented, rfl⟩
    refine ⟨p.segments.map String.toList, fun none => below ?_, ?_, ?_⟩
    · exact congrArg Path.mk (List.map_eq_nil_iff.1 none)
    · rw [toList_path_text]
      have split := @splitOn_append '/' [] List.not_mem_nil
        (joinWith '/' (p.segments.map String.toList))
      rw [List.nil_append] at split
      rw [split, splitOn_joinWith fun none => below (congrArg Path.mk (List.map_eq_nil_iff.1 none))]
      intro piece member
      obtain ⟨segment, listed, rfl⟩ := List.mem_map.1 member
      exact (segmented segment listed).2.2
    · intro piece member
      obtain ⟨segment, listed, rfl⟩ := List.mem_map.1 member
      obtain ⟨some, other, -⟩ := segmented segment listed
      exact ⟨fun none => some (String.toList_eq_nil_iff.1 none),
        fun dot => other (String.toList_injective dot)⟩

namespace Layout

variable {l : Layout} {p q : Path} {path : String}

/-- The output itself has a public path of its own. -/
theorem logicalPath_output (l : Layout) : l.logicalPath l.output = some "/." := by
  have here : l.output.below? l.output = some [] := by
    simpa only [Path.append_nil] using l.output.below?_append []
  rw [logicalPath, here]
  rfl

theorem outputFile_eq (l : Layout) (path : String) :
    l.outputFile path = l.output.append (pathSegments path) := by
  rw [outputFile, pathSegments_trimStart]

/-- A file of the output is the one of its public path. -/
theorem outputFile_logicalPath (below : p.isBelow l.output = true) (segmented : p.IsSegmented) :
    ∃ path, l.logicalPath p = some path ∧ l.outputFile path = p := by
  obtain ⟨names, rfl⟩ := Path.isBelow_iff.1 below
  by_cases top : names = []
  · subst top
    rw [Path.append_nil]
    exact ⟨"/.", l.logicalPath_output, l.output.append_nil⟩
  · have plain : ∀ name ∈ names, IsSegment name :=
      fun name member => segmented name (List.mem_append_right _ member)
    exact ⟨_, l.logicalPath_append top, l.outputFile_text (p := ⟨names⟩) plain⟩

/-- Files of the output with the same public path are the same. -/
theorem eq_of_logicalPath (one : p.isBelow l.output = true) (two : q.isBelow l.output = true)
    (segmented : p.IsSegmented) (segmented' : q.IsSegmented)
    (same : l.logicalPath p = l.logicalPath q) : p = q := by
  obtain ⟨path, found, rfl⟩ := outputFile_logicalPath one segmented
  obtain ⟨path', found', rfl⟩ := outputFile_logicalPath two segmented'
  rw [found, found'] at same
  rw [Option.some.inj same]

/-- The paths that come back from their output files. -/
theorem logicalPath_outputFile : l.logicalPath (l.outputFile path) = some path ↔
    IsPublic path ∨ path = "/." := by
  rw [outputFile_eq]
  by_cases top : pathSegments path = []
  · rw [top, Path.append_nil, logicalPath_output, Option.some_inj]
    constructor
    · exact fun same => Or.inr same.symm
    · rintro (publicly | rfl)
      · obtain ⟨p, below, segmented, rfl⟩ := isPublic_iff.1 publicly
        rw [Path.pathSegments_text segmented] at top
        exact absurd (congrArg Path.mk top) below
      · rfl
  · rw [l.logicalPath_append top, Option.some_inj]
    constructor
    · intro same
      refine Or.inl (isPublic_iff.2 ⟨_, fun root => top (congrArg Path.segments root), ?_, same⟩)
      exact fun segment member => isSegment_of_mem member
    · rintro (publicly | rfl)
      · obtain ⟨p, below, segmented, rfl⟩ := isPublic_iff.1 publicly
        rw [Path.pathSegments_text segmented]
      · exact absurd rfl top

end Layout

/-! ## What is published -/

namespace Build

/-- Whether a file is one of the output with a path in normal form. -/
def IsPlace (l : Layout) (file : Path) : Prop :=
  ∃ p : Path, p.IsProper ∧ p ≠ Path.root ∧ l.output.append p.segments = file

/-- Whether a result lists each file together with its public path. -/
def Told (l : Layout) (r : StageResult) : Prop :=
  r.outputs.Forall₂ (fun path file => IsPlace l file ∧ l.logicalPath file = some path) r.outputFiles

section Stages

variable {l : Layout} {base : Path} {s t : State} {p : Path} {file : Path} {path : String}

theorem collects_told : Collects l (IsPlace l) (Told l) where
  below file place := by
    obtain ⟨p, -, -, rfl⟩ := place
    exact Path.isBelow_append ..
  empty := .nil
  append _ _ one two := List.rel_append one two
  addOutput _ _ _ told place logical := List.rel_append told (.cons ⟨place, logical⟩ .nil)
  addFailure _ _ told := told

theorem IsPlace.told (place : IsPlace l file) (logical : l.logicalPath file = some path) :
    IsProperName path ∧ l.outputFile path = file := by
  obtain ⟨p, proper, below, rfl⟩ := place
  rw [l.logicalPath_append fun top => below (congrArg Path.mk top)] at logical
  cases logical
  exact ⟨⟨p, proper, rfl⟩, l.outputFile_text proper.plain⟩

variable (sited : Sited l base)

include sited

theorem files_publishText {names : List String} (proper : (Path.mk names).IsProper)
    (some : names ≠ []) (own : p.IsProper) (text : String) (lookups : Names) :
    Files l base (fun o => ∀ file, o = .ok file → IsPlace l file)
      (publishText p (l.output.append names) text lookups) := by
  have below : Path.mk names ≠ Path.root := fun top => some (congrArg Path.segments top)
  refine keeps_publishText (fun _ filed => filed.layout) some ?_
    fun s filed => filed.made own .asset [] lookups
  refine (files_publish sited proper below _).mono fun file here other same => ?_
  cases same
  exact ⟨_, proper, below, (here.trans (l.outputFile_text proper.plain)).symm⟩

theorem scriptCraft_told (proper : p.IsProper) :
    scriptCraft.Yields (Filed l base) (fun _ _ => True) (IsPlace l) p := by
  refine (files_onFiles _ (FileTree.Op.maintains_content p)).bind fun content _ => .pure ?_
  rintro _ ⟨⟩
  refine keeps_scriptFinish (fun _ filed => filed.layout) (fun _ _ same => nomatch same)
    (fun _ _ _ => trivial) fun segments below text lookups => ?_
  have place : (Path.mk ("assets" :: "js" :: segments)).IsProper := by
    simpa [Path.IsProper] using ⟨by decide, by decide, proper_below (below ▸ proper)⟩
  exact files_publishText sited place (List.cons_ne_nil _ _) proper text lookups

theorem styleCraft_told (proper : p.IsProper) :
    styleCraft.Yields (Filed l base) (fun _ _ => True) (IsPlace l) p := by
  refine keeps_stylePrepare (fun _ _ _ => trivial) fun _ _ _ _ prepared _ => ?_
  refine keeps_styleFinish (fun _ filed => filed.layout) (fun _ _ _ => trivial)
    fun segments below => ?_
  exact files_publishText sited (sheetNames_isProper (below ▸ proper)) (sheetNames_ne_nil segments)
    proper _ _

theorem imageCraft_told (proper : p.IsProper) :
    imageCraft.Yields (Filed l base) (fun _ _ => True) (IsPlace l) p := by
  refine keeps_imagePrepare (fun _ filed => filed.layout) (fun _ _ _ => trivial)
    fun segments below => ?_
  have place : (Path.mk ("assets" :: "img" :: segments)).IsProper := by
    simpa [Path.IsProper] using ⟨by decide, by decide, proper_below (below ▸ proper)⟩
  have own : IsPlace l (l.output.append ("assets" :: "img" :: segments)) :=
    ⟨_, place, by simp [Path.root], rfl⟩
  refine keeps_imageFinish (fun _ filed => filed.layout) files_noteCompiled (List.cons_ne_nil _ _)
    (files_onFiles _ (FileTree.Op.maintains_content p)) (fun _ _ _ content => ?_)
    fun _ _ _ => ?_
  · refine (files_publish sited place (by simp [Path.root]) content).mono fun file here => ?_
    rintro _ ⟨⟩
    exact here.trans (l.outputFile_text place.plain) ▸ own
  · refine (files_onFiles _ (FileTree.Op.proper_link _ (sited.output.append place))).mono
      fun _ _ => ?_
    rintro _ ⟨⟩
    exact own

end Stages

/-! ## Stages -/

/-- A stage that publishes assets, of some sources or of all that there are. -/
inductive AssetStage
  | scripts (sources : Option (List Path))
  | styles (sources : Option (List Path))
  | images (sources : Option (List Path))
  | together (schedule : Schedule)

namespace AssetStage

def run : AssetStage → Build StageResult
  | scripts sources => compileScripts sources
  | styles sources => compileStyles sources
  | images sources => publishImages sources
  | together schedule => compileAssets schedule

/-- Whether the sources that a stage is given have paths in normal form. -/
def IsProper : AssetStage → Prop
  | scripts sources | styles sources | images sources => ∀ p ∈ sources.getD [], p.IsProper
  | together _ => True

end AssetStage

section Results

variable {l : Layout} {base : Path} {s t : State} {r : StageResult}

theorem told_runAll {craft : Craft} {sources : List Path} (each : ∀ source ∈ sources,
    craft.Yields (Filed l base) (fun _ _ => True) (IsPlace l) source) :
    Files l base (Told l) (runAll craft sources) :=
  collects_told.runAll files_note (fun _ filed => filed.layout) each

/-- Sources that are not given are files of the site. -/
theorem getD_isProper {given : Option (List Path)} {found : List Path}
    (proper : ∀ p ∈ given.getD [], p.IsProper) (own : ∀ p ∈ found, p.IsProper) :
    ∀ p ∈ given.getD found, p.IsProper := by
  cases given with
  | none => exact own
  | some sources => exact proper

theorem AssetStage.told (sited : Sited l base) {stage : AssetStage} (proper : stage.IsProper) :
    Files l base (Told l) stage.run := by
  have scripts (s : State) (filed : Filed l base s) : ∀ p ∈ s.scripts, p.IsProper :=
    fun p listed => filed.files.of_mem_filesBelow
      (filed.layout ▸ Layout.scripts_isProper sited.source) (List.mem_filter.1 listed).1
  have styles (s : State) (filed : Filed l base s) : ∀ p ∈ s.styles false, p.IsProper :=
    fun p listed => filed.files.of_mem_filesBelow
      (filed.layout ▸ Layout.styles_isProper sited.source) (List.mem_filter.1 listed).1
  have images (s : State) (filed : Filed l base s) : ∀ p ∈ s.images, p.IsProper :=
    fun p listed => filed.files.of_mem_filesBelow
      (filed.layout ▸ Layout.images_isProper sited.source) (List.mem_filter.1 listed).1
  cases stage with
  | scripts given =>
    exact .get_bind fun s filed => told_runAll fun p listed =>
      scriptCraft_told sited (getD_isProper proper (scripts s filed) p listed)
  | styles given =>
    exact .get_bind fun s filed => told_runAll fun p listed =>
      styleCraft_told sited (getD_isProper proper (styles s filed) p (List.mem_filter.1 listed).1)
  | images given =>
    exact .get_bind fun s filed => told_runAll fun p listed =>
      imageCraft_told sited (getD_isProper proper (images s filed) p listed)
  | together schedule =>
    exact .get_bind fun s filed => collects_told.runTogether files_note
      (fun _ filed => filed.layout)
      (collects_told.start fun p listed => scriptCraft_told sited (scripts s filed p listed))
      (collects_told.start fun p listed => styleCraft_told sited (styles s filed p listed))

/-- Whether a public path is recorded, or one that a stage publishes next. -/
def IsPublished (s : State) (path : String) : Prop :=
  (∃ physical, s.store.get? path = some physical) ∨
    ∃ stage : AssetStage, stage.IsProper ∧ ∃ r t, stage.run s = .ok r t ∧ path ∈ r.outputs

theorem told_of_reached (reached : Reached s) {stage : AssetStage} (proper : stage.IsProper)
    (ran : stage.run s = .ok r t) : r.outputs.Forall₂ (fun path file => IsProperName path ∧
      s.layout.logicalPath file = some path ∧ s.layout.outputFile path = file) r.outputFiles := by
  obtain ⟨sited, filed⟩ := reached.filed
  refine ((AssetStage.told sited proper).ok filed ran).2.imp fun path file told => ?_
  obtain ⟨proper, back⟩ := told.1.told told.2
  exact ⟨proper, told.2, back⟩

theorem IsPublished.isProperName (reached : Reached s) {path : String}
    (published : IsPublished s path) : IsProperName path := by
  rcases published with ⟨physical, found⟩ | ⟨stage, proper, r, t, ran, listed⟩
  · exact (reached.filed.2.records path physical found).1
  · have told := told_of_reached reached proper ran
    obtain ⟨i, bound, rfl⟩ := List.getElem_of_mem listed
    exact (told.get bound (told.length_eq ▸ bound)).1

end Results

/-- A file below the output has a public path, and that path has this file. A path comes back from its
file if and only if it is a public path, or the one of the output itself. So no two files have one
public path. What the asset stages of a site list are files with their public paths, whatever was
built before, and no two published assets have one key in the dependency index. -/
theorem outputs_correspond (l : Layout) :
    (∀ p : Path, p.isBelow l.output = true → p.IsSegmented →
      ∃ path, l.logicalPath p = some path ∧ l.outputFile path = p) ∧
    (∀ path, l.logicalPath (l.outputFile path) = some path ↔ IsPublic path ∨ path = "/.") ∧
    (∀ p q : Path, p.isBelow l.output = true → q.isBelow l.output = true → p.IsSegmented →
      q.IsSegmented → l.logicalPath p = l.logicalPath q → p = q) ∧
    ∀ s, Reached s → s.layout = l →
      (∀ stage : AssetStage, stage.IsProper → ∀ r t, stage.run s = .ok r t →
        r.outputs.Forall₂ (fun path file => IsProperName path ∧ l.logicalPath file = some path ∧
          l.outputFile path = file) r.outputFiles) ∧
      ∀ s', Reached s' → s'.layout = l → s'.base = s.base → ∀ path path',
        IsPublished s path → IsPublished s' path' → s.fileName path = s'.fileName path' →
          path = path' := by
  refine ⟨fun p => Layout.outputFile_logicalPath, fun path => Layout.logicalPath_outputFile,
    fun p q => Layout.eq_of_logicalPath, ?_⟩
  rintro s reached rfl
  refine ⟨fun stage proper r t ran => told_of_reached reached proper ran, ?_⟩
  intro s' reached' layout base path path' published published' same
  obtain ⟨p, proper, rfl⟩ := published.isProperName reached
  obtain ⟨q, proper', rfl⟩ := published'.isProperName reached'
  have moved : s'.fileName q.text = s.fileName q.text := by
    rw [State.fileName, State.fileName, layout, base]
  rw [eq_of_fileName_eq reached.filed.1.output proper proper' (same.trans moved)]

/-- The image of a site that is published, and then once more. -/
theorem outputs_correspond_of_pictured : ∃ r t, (AssetStage.images none).run pictured = .ok r t ∧
    r.outputs.Forall₂ (fun path file => IsProperName path ∧
      pictured.layout.logicalPath file = some path ∧ pictured.layout.outputFile path = file)
      r.outputFiles ∧
    IsPublished pictured "/assets/img/logo.svg" ∧ "/assets/img/logo.svg" ∈ r.outputs ∧
    (∀ path ∈ r.outputs, pictured.fileName path = pictured.fileName "/assets/img/logo.svg" →
      path = "/assets/img/logo.svg") ∧
    ∃ path, pictured.layout.logicalPath ⟨["public", "assets", "img", "logo.svg"]⟩ = some path ∧
      pictured.layout.outputFile path = ⟨["public", "assets", "img", "logo.svg"]⟩ := by
  have again : passes (AssetStage.images none).run pictured
      (fun r _ => r.outputs == ["/assets/img/logo.svg"]) = true := by decide +kernel
  obtain ⟨r, t, ran, listed⟩ := exists_of_passes again
  have listed : r.outputs = ["/assets/img/logo.svg"] := by simpa using listed
  have stage : (AssetStage.images none).IsProper := fun _ member => nomatch member
  have file : (Path.mk ["public", "assets", "img", "logo.svg"]).IsProper := by decide
  have below : (Path.mk ["public", "assets", "img", "logo.svg"]).isBelow pictured.layout.output =
      true := by decide +kernel
  have published : IsPublished pictured "/assets/img/logo.svg" :=
    Or.inl ⟨"/assets/img/logo-c4ca4238a0.svg", by decide +kernel⟩
  obtain ⟨own, -, -, run⟩ := outputs_correspond pictured.layout
  obtain ⟨told, keys⟩ := run pictured reached_pictured rfl
  refine ⟨r, t, ran, told _ stage r t ran, published, by simp [listed], fun path member same => ?_,
    own _ below file.segmented⟩
  exact keys pictured reached_pictured rfl rfl path _ (Or.inr ⟨_, stage, r, t, ran, member⟩) published
    same

end Build

end Folio
