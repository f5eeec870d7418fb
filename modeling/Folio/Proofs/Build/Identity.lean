import Folio.Proofs.Build.Sources

/-!
# Identity of published paths

All records are of paths in normal form and lead to such paths, whatever is built and whatever becomes
of the files in between (`Reached.filed`). The dependency index knows an output file by its normal
form, however a path to it is written; the record of a path is found by its own text alone
(`resolve_alike`).
-/

namespace Folio.Build

open FileTree Dependencies

/-! ## Records -/

/-- Whether a site lies at paths in normal form. -/
structure Sited (l : Layout) (base : Path) : Prop where
  base : base.IsProper
  source : l.source.IsProper
  output : l.output.IsProper

/-- What a build keeps wherever its site lies: its files, the names in the dependency index and the
records with what they lead to have paths in normal form. -/
structure Filed (l : Layout) (base : Path) (s : State) : Prop where
  layout : s.layout = l
  base : s.base = base
  files : s.files.IsProper
  indexed : Indexed s.dependencies
  named : ∀ source files, s.dependencies.edges.lookup source = some files → IsProperName source
  records : ∀ path physical, s.store.get? path = some physical →
    IsProperName path ∧ IsProperName physical

section Records

variable {α : Type} {l : Layout} {base : Path} {s t : State} {p : Path} {names : List String}

theorem Filed.published (filed : Filed l base s) (proper : p.IsProper) (below : p ≠ Path.root)
    (content : Bytes) : Filed l base (s.published p.text content) := by
  refine { filed with records := fun path physical found => ?_ }
  rw [get?_published] at found
  split at found
  · next here =>
    obtain rfl := Option.some.inj found
    refine ⟨⟨p, proper, here.2.symm⟩, ?_⟩
    rw [Asset.Store.physical, if_pos here.1, Asset.fingerprinted_text proper.plain below]
    exact ⟨_, Asset.digestPath_isProper proper (Digest.ofContent_isShort content), rfl⟩
  · exact filed.records path physical found

theorem Filed.made (filed : Filed l base s) (proper : p.IsProper) (kind : Kind) (files : List String)
    (lookups : Names) : Filed l base (s.made kind p files lookups) :=
  { filed with
    indexed := filed.indexed.replace _ _
    named := named_made filed.named ⟨p, proper, (proper.normalize_eq s.base).symm⟩ }

theorem Filed.forget (filed : Filed l base s) (name : String) :
    Filed l base { s with dependencies := s.dependencies.forget s.base name } :=
  { filed with
    indexed := filed.indexed.forget name
    named := named_forget filed.named name }

/-- Steps that file only paths in normal form, however they end. -/
abbrev Files (l : Layout) (base : Path) (Q : α → Prop) (x : Build α) : Prop :=
  Keeps (Filed l base) (fun _ _ => True) Q x

theorem files_onFiles {x : FileTree.Op α} (p : Path) (keeps : Op.KeepsProper x) :
    Files l base (fun _ => True) (onFiles p x) :=
  keeps_onFiles
    (fun _ _ _ filed ran => ⟨{ filed with files := (keeps.ok filed.files ran).1 }, trivial⟩)
    fun _ _ _ filed ran => ⟨{ filed with files := (keeps.error filed.files ran).1 }, trivial⟩

theorem files_note (line : String) : Files l base (fun _ => True) (note line) :=
  .modify fun _ filed => { filed with }

theorem files_noteCompiled (path : String) : Files l base (fun _ => True) (noteCompiled path) :=
  .modify fun _ filed => { filed with }

variable (sited : Sited l base)

include sited

theorem files_publish (proper : p.IsProper) (below : p ≠ Path.root) (content : Bytes) :
    Files l base (· = l.outputFile p.text) (publish p.text content) := by
  refine keeps_publish (fun _ filed => filed.layout)
    (fun s filed => filed.published proper below content) (fun s _ => ?_)
    (fun _ _ _ _ => files_onFiles _ (Op.proper_remove _)) files_noteCompiled
  obtain ⟨name, proper', file⟩ := outputFile_physical l s.store proper below content
  rw [file]
  exact files_onFiles _ (Op.proper_write (sited.output.append proper') content)

/-! ## Sources -/

theorem scriptCraft_files (proper : p.IsProper) :
    scriptCraft.Takes (Filed l base) (fun _ _ => True) p := by
  refine takes_script (fun _ filed => filed.layout) (files_onFiles _ (Op.maintains_content p))
    (fun _ _ _ => trivial) (fun segments below => ?_)
    fun s lookups filed => filed.made proper .asset [] lookups
  subst below
  have place : (Path.mk ("assets" :: "js" :: segments)).IsProper := by
    simpa [Path.IsProper] using ⟨by decide, by decide, proper_below proper⟩
  exact files_publish sited place (by simp [Path.root])

theorem styleCraft_files (proper : p.IsProper) :
    styleCraft.Takes (Filed l base) (fun _ _ => True) p := by
  refine takes_style (fun _ filed => filed.layout) (fun _ _ _ => trivial) (fun _ _ _ => trivial)
    (fun segments below => ?_) fun s lookups filed => filed.made proper .asset [] lookups
  subst below
  exact files_publish sited (sheetNames_isProper proper)
    fun top => sheetNames_ne_nil segments (congrArg Path.segments top)

theorem imageCraft_files (proper : p.IsProper) :
    imageCraft.Takes (Filed l base) (fun _ _ => True) p := by
  have place (segments : List String) (below : l.images.append segments = p) :
      (Path.mk ("assets" :: "img" :: segments)).IsProper := by
    subst below
    simpa [Path.IsProper] using ⟨by decide, by decide, proper_below proper⟩
  refine takes_image (fun _ filed => filed.layout) files_noteCompiled
    (files_onFiles _ (Op.maintains_content p)) (fun _ _ _ => trivial) (fun segments below => ?_)
    fun s _ _ segments below => ?_
  · exact files_publish sited (place segments below) (by simp [Path.root])
  · exact files_onFiles _ (Op.proper_link _ (sited.output.append (place segments below)))

theorem files_publishVendor : Files l base (fun _ => True) publishVendor := by
  have output : l.outputVendor.IsProper := sited.output.child (by decide)
  refine keeps_publishVendor (fun _ filed => filed.layout) files_noteCompiled fun s filed _ => ?_
  split
  · refine files_onFiles _ (Op.proper_copy output ?_)
    rw [Layout.vendor, Path.name_child]
    decide
  · exact files_onFiles _ (Op.proper_link _ output)

theorem files_clean : Files l base (fun _ => True) clean := by
  refine .get_bind fun s filed => ?_
  rw [filed.layout]
  refine (files_onFiles _ (Op.proper_resetDirectory sited.output)).bind fun _ _ => ?_
  refine .modify fun s filed => { filed with
    indexed := indexed_empty
    named := fun _ _ found => ?_
    records := fun _ _ found => ?_ }
  · cases found
  · cases found

omit sited in
theorem Filed.root_proper (filed : Filed l base s) (source : l.source.IsProper)
    (listed : p ∈ s.roots) : p.IsProper := by
  obtain ⟨q, template, rfl⟩ := List.mem_map.1 listed
  have views : s.layout.views.IsProper := filed.layout ▸ Layout.views_isProper source
  exact resolve_isProper
    (filed.files.of_mem_filesBelow views (List.mem_filter.1 template).1).segmented

theorem files_rules : Rules (Filed l base) (fun _ _ => True) l base IsProperName where
  layout_eq _ filed := filed.layout
  base_eq _ filed := filed.base
  note := files_note
  routes _ _ filed := { filed with }
  forget _ name filed := filed.forget name
  vendor := files_publishVendor sited
  scripts s filed p listed := scriptCraft_files sited <| filed.files.of_mem_filesBelow
    (filed.layout ▸ Layout.scripts_isProper sited.source) (List.mem_filter.1 listed).1
  styles s filed p listed := styleCraft_files sited <| filed.files.of_mem_filesBelow
    (filed.layout ▸ Layout.styles_isProper sited.source) (List.mem_filter.1 listed).1
  images s filed p listed := imageCraft_files sited <| filed.files.of_mem_filesBelow
    (filed.layout ▸ Layout.images_isProper sited.source) (List.mem_filter.1 listed).1
  roots s filed p listed := ⟨p, filed.root_proper sited.source listed, rfl⟩
  dependents s file filed d listed := named_dependents filed.named filed.indexed listed
  existing s name filed named := by
    obtain ⟨p, proper, rfl⟩ := named
    rw [proper.ofText_eq]
    exact fun _ => ⟨fun _ => scriptCraft_files sited proper, fun _ => styleCraft_files sited proper⟩

theorem files_located (path : String) :
    Files l base (Handles (Filed l base) (fun _ _ => True) l IsProperName)
      (realPathOf (Path.ofText base path)) := by
  refine keeps_realPathOf (fun s q _ found => ?_) fun _ _ _ _ => trivial
  have proper : q.IsProper :=
    realPath_isProper (sited.base.segmented.ofText path) (realPath_ok_iff.1 found)
  exact ⟨fun _ => ⟨q, proper, rfl⟩, fun _ => scriptCraft_files sited proper,
    fun _ _ => imageCraft_files sited proper⟩

/-! ## Pages -/

theorem files_addPage (proper : p.IsProper) (r : StageResult) :
    Files l base (fun _ => True) (addPage p r) := by
  have compiled : Files l base (fun _ => True) (compilePage p []) := by
    refine keeps_compilePage (keeps_realPathOf (fun _ _ _ found => ?_) fun _ _ _ _ => trivial)
      fun q proper s files lookups filed => filed.made proper .page files lookups
    exact realPath_isProper proper.segmented (realPath_ok_iff.1 found)
  refine keeps_addPage (fun _ filed => filed.layout) compiled (keeps_failWith files_note r)
    (fun segments below content => ?_) files_noteCompiled fun _ _ _ _ => trivial
  subst below
  exact files_onFiles _ (Op.proper_write (pageFile_isProper sited.output (proper_below proper)) content)

/-! ## Builds and batches -/

theorem files_buildProject (schedule : Schedule) :
    Files l base (fun _ => True) (buildProject schedule) := by
  rw [buildProject_eq_clean]
  refine (files_clean sited).bind fun _ _ => ?_
  exact (files_rules sited).buildPages schedule fun s filed root listed r =>
    files_addPage sited (filed.root_proper sited.source listed) r

theorem files_handle (changes : List Change) : Files l base (fun _ => True) (handle changes) := by
  refine (files_rules sited).handle (fun c _ => files_located sited c.path) fun s name _ named => ?_
  obtain ⟨p, proper, rfl⟩ := named
  rw [proper.ofText_eq]
  exact fun _ r => files_addPage sited proper r

theorem Filed.act (filed : Filed l base s) (act : Act) : Filed l base (act.after s) := by
  have files : Files l base (fun _ => True) act.run := by
    cases act with
    | build schedule => exact files_buildProject sited schedule
    | handle changes => exact files_handle sited changes
  unfold Act.after
  cases ran : act.run s with
  | ok r t => exact (files.ok filed ran).1
  | error e t => exact (files.error filed ran).1

end Records

/-! ## Runs -/

/-- The states that a site comes to by builds and batches, be it that they return or that they stop.
It starts at paths in normal form with an empty index and no records. Between the steps its files may
become any others whose paths are in normal form. -/
inductive Reached : State → Prop
  | start {s : State} (sited : Sited s.layout s.base) (files : s.files.IsProper)
      (index : s.dependencies = .empty) (store : s.store.records = []) : Reached s
  | edited {s : State} {files : FileTree} (reached : Reached s) (proper : files.IsProper) :
      Reached { s with files }
  | stepped {s : State} (reached : Reached s) (act : Act) : Reached (act.after s)

/-- All records of a site are of paths in normal form and lead to such paths. -/
theorem Reached.filed {s : State} (reached : Reached s) :
    Sited s.layout s.base ∧ Filed s.layout s.base s := by
  induction reached with
  | @start s sited files index store =>
    refine ⟨sited, rfl, rfl, files, index ▸ indexed_empty, fun source files found => ?_,
      fun path physical found => ?_⟩
    · rw [index] at found
      cases found
    · rw [Asset.Store.get?, store] at found
      cases found
  | edited _ proper ih => exact ⟨ih.1, { ih.2 with files := proper }⟩
  | @stepped s _ act ih =>
    obtain ⟨sited, filed⟩ := ih
    have after := filed.act sited act
    rw [← after.layout, ← after.base] at sited
    exact ⟨sited, { after with layout := rfl, base := rfl }⟩

/-! ## Alike paths -/

section Alike

variable {s : State} {p q : Path}

theorem fileName_text (output : s.layout.output.IsProper) (proper : p.IsProper) :
    s.fileName p.text = (s.layout.output.append p.segments).text := by
  have place := Layout.outputFile_text s.layout proper.plain
  rw [State.fileName, place]
  exact (output.append proper).normalize_eq s.base

/-- Paths in normal form have files of their own. -/
theorem eq_of_fileName_eq (output : s.layout.output.IsProper) (one : p.IsProper) (two : q.IsProper)
    (alike : s.fileName p.text = s.fileName q.text) : p = q := by
  rw [fileName_text output one, fileName_text output two] at alike
  have same := (text_inj (output.append one) (output.append two)).1 alike
  exact congrArg Path.mk (Path.append_inj same)

/-- A published path and a path of the same file, as the dependency index knows files, resolve alike
if and only if they are the same text, which they are if and only if the other one is in normal form
too. All others resolve to themselves. -/
theorem resolve_alike (reached : Reached s) {path physical : String}
    (published : s.store.get? path = some physical) (name : String)
    (category : Option Asset.Category)
    (alike : s.fileName (Asset.logicalPath name category) = s.fileName path) :
    (s.store.resolve (Asset.logicalPath name category) = s.store.resolve path ↔
        Asset.logicalPath name category = path) ∧
      (Asset.logicalPath name category = path ↔ IsProperName (Asset.logicalPath name category)) ∧
      (Asset.logicalPath name category ≠ path →
        s.store.resolve (Asset.logicalPath name category) = Asset.logicalPath name category) := by
  generalize Asset.logicalPath name category = asked at alike ⊢
  obtain ⟨sited, filed⟩ := reached.filed
  have output := sited.output
  obtain ⟨⟨p, proper, rfl⟩, named⟩ := filed.records path physical published
  have normal : asked = p.text ↔ IsProperName asked := by
    refine ⟨fun same => ⟨p, proper, same.symm⟩, ?_⟩
    rintro ⟨q, proper', rfl⟩
    rw [eq_of_fileName_eq output proper' proper alike]
  have itself (other : asked ≠ p.text) : s.store.resolve asked = asked := by
    unfold Asset.Store.resolve
    cases found : s.store.get? asked with
    | none => rfl
    | some old =>
      obtain ⟨q, proper', text⟩ := (filed.records asked old found).1
      exact absurd (normal.2 ⟨q, proper', text⟩) other
  refine ⟨⟨fun same => ?_, fun same => same ▸ rfl⟩, normal, itself⟩
  by_contra other
  -- what is recorded is in normal form, which a path that resolves to itself is not here
  rw [itself other, Asset.Store.resolve, published, Option.getD_some] at same
  exact other (normal.2 (same ▸ named))

end Alike

/-- A site with one image. -/
def pictureSite : State :=
  productionSite [(["assets"], .directory), (["assets", "img"], .directory),
    (["assets", "img", "logo.svg"], textFile "1")]

def pictured : State :=
  (Act.build []).after pictureSite

theorem reached_pictured : Reached pictured :=
  .stepped (.start ⟨by decide, by decide, by decide⟩ (by decide) rfl rfl) (.build [])

theorem resolve_alike_of_pictured :
    pictured.store.get? "/assets/img/logo.svg" = some "/assets/img/logo-c4ca4238a0.svg" ∧
      pictured.fileName (Asset.logicalPath "logo.svg" none) =
        pictured.fileName "/assets/img/logo.svg" ∧
      pictured.store.resolve (Asset.logicalPath "logo.svg" none) =
        pictured.store.resolve "/assets/img/logo.svg" := by
  have published : pictured.store.get? "/assets/img/logo.svg" =
      some "/assets/img/logo-c4ca4238a0.svg" := by decide +kernel
  have same : Asset.logicalPath "logo.svg" none = "/assets/img/logo.svg" := by decide +kernel
  have alike : pictured.fileName (Asset.logicalPath "logo.svg" none) =
      pictured.fileName "/assets/img/logo.svg" := by rw [same]
  exact ⟨published, alike, (resolve_alike reached_pictured published "logo.svg" none alike).1.2 same⟩

/-- A name with a dot segment stands for the file of the image, but does not resolve to it. -/
theorem resolve_alike_fails :
    ¬ ∀ (s : State) (path physical name : String) (category : Option Asset.Category),
      Reached s → s.production = true → s.store.get? path = some physical →
      s.fileName (Asset.logicalPath name category) = s.fileName path →
      s.store.resolve (Asset.logicalPath name category) = s.store.resolve path := by
  intro resolves
  have same := resolves pictured "/assets/img/logo.svg" "/assets/img/logo-c4ca4238a0.svg" "./logo.svg"
    none reached_pictured (by decide +kernel) (by decide +kernel) (by decide +kernel)
  exact absurd same (by decide +kernel)

end Folio.Build
