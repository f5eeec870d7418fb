import Folio.Build.Project
import Folio.Proofs.Build.Asset
import Folio.Proofs.Build.Page

/-!
# What a full build resolves

Pages are given the final path of each asset (`buildProject_names`). A script or stylesheet is given
what its paths resolved to at one moment before it was published, so it misses what a script or
stylesheet publishes from then on.
-/

namespace Folio.Build

theorem coherent_cleaned (s : State) : Coherent s.cleaned where
  indexed := Dependencies.indexed_empty
  resolves _ := rfl
  unrecorded _ := rfl
  named source files found := by simp [State.cleaned, Dependencies.empty] at found
  made source files found := by simp [State.cleaned, Dependencies.empty] at found

/-- Cleaning empties the output, and leaves nothing of the session but its site and its log. -/
theorem of_clean {s s' : State} (ran : clean s = .ok () s') :
    FileTree.Op.resetDirectory s.layout.output s.files = .ok () s'.files ∧
      s' = { s.cleaned with files := s'.files } := by
  obtain ⟨_, _, got, ran⟩ := bind_ok_iff.1 ran
  obtain ⟨rfl, rfl⟩ := get_ok_iff.1 got
  obtain ⟨_, u, emptied, ran⟩ := bind_ok_iff.1 ran
  obtain rfl := modify_ok_iff.1 ran
  obtain ⟨reset, after⟩ := onFiles_ok emptied
  exact ⟨reset, by rw [after]; rfl⟩

theorem clean_ok {s s' : State} (ran : clean s = .ok () s') : Coherent s' ∧ s'.journal = [] := by
  rw [(of_clean ran).2]
  exact ⟨coherent_cleaned { s with files := s'.files }, rfl⟩

theorem compileAssets_ok {schedule : Schedule} {s s' : State} {r : StageResult}
    (coherent : Coherent s) (ran : compileAssets schedule s = .ok r s') :
    ∃ new, Ran (fun moment j => s.journal <:+ moment ∧ moment <:+ j) new s s' ∧ Compiled new := by
  obtain ⟨_, _, got, ran⟩ := bind_ok_iff.1 ran
  obtain ⟨rfl, rfl⟩ := get_ok_iff.1 got
  refine runTogether_ok ?_ (fun new => ⟨List.suffix_append _ _, List.suffix_refl _⟩) coherent
    (Lane.isReady_none _ _ _) ran
  rintro moment new j ⟨since, until_⟩
  exact ⟨since, until_.trans (List.suffix_append _ _)⟩

theorem compileAllPages_ok {s s' : State} {r : StageResult} (coherent : Coherent s)
    (ran : compileAllPages s = .ok r s') : ∃ new, Rendered new s s' := by
  obtain ⟨_, _, got, ran⟩ := bind_ok_iff.1 ran
  obtain ⟨rfl, rfl⟩ := get_ok_iff.1 got
  obtain ⟨new, rendered, -⟩ := compilePages_ok coherent ran
  exact ⟨new, rendered⟩

/-- What a full build does between the empty output and its pages. -/
def buildCleaned (schedule : Schedule) : Build StageResult := do
  let _ ← rebuildRoutes
  let images ← publishImages none
  let vendor ← publishVendor
  let assets ← compileAssets schedule
  return (images.append vendor).append assets

/-- A full build up to its pages. -/
def buildAssets (schedule : Schedule) : Build StageResult := do
  clean
  let _ ← rebuildRoutes
  let images ← publishImages none
  let vendor ← publishVendor
  let assets ← compileAssets schedule
  return (images.append vendor).append assets

/-- A full build does its assets, then its pages. -/
theorem buildProject_eq (schedule : Schedule) : buildProject schedule = do
    let assets ← buildAssets schedule
    let pages ← compileAllPages
    let report := assets.append pages
    if !report.ok then note s!"Build finished with {report.failures.length} error(s)"
    return report := by
  simp only [buildProject, buildAssets, bind_assoc, pure_bind]

theorem buildAssets_eq (schedule : Schedule) :
    buildAssets schedule = clean >>= fun _ => buildCleaned schedule :=
  rfl

/-- A full build empties the output first. -/
theorem buildProject_eq_clean (schedule : Schedule) :
    buildProject schedule = clean >>= fun _ => do
      let assets ← buildCleaned schedule
      let pages ← compileAllPages
      let report := assets.append pages
      if !report.ok then note s!"Build finished with {report.failures.length} error(s)"
      return report := by
  rw [buildProject_eq, buildAssets_eq, bind_assoc]

/-- The journal of a full build: images, then scripts and stylesheets, then pages. -/
structure Built (images assets pages : Journal) (s : State) : Prop where
  journal : s.journal = pages ++ (assets ++ images)
  coherent : Coherent s
  unmade : ∀ kind source names, .made kind source names ∉ images
  compiled : Compiled assets
  given : Given (fun moment j => images <:+ moment ∧ moment <:+ j) images assets
  last : OnlyPages pages
  rendered : Given Eq (assets ++ images) pages

theorem buildProject_ok {schedule : Schedule} {s s' : State} {r : StageResult}
    (ran : buildProject schedule s = .ok r s') : ∃ images assets pages, Built images assets pages s' := by
  obtain ⟨_, s₁, cleaned, ran⟩ := bind_ok_iff.1 ran
  obtain ⟨coherent, empty⟩ := clean_ok cleaned
  obtain ⟨_, s₂, routed, ran⟩ := bind_ok_iff.1 ran
  have routed := quiet_rebuildRoutes _ _ _ routed
  obtain ⟨published, s₃, imaged, ran⟩ := bind_ok_iff.1 ran
  obtain ⟨images, imaged⟩ := publishImages_ok (routed.coherent coherent) imaged
  obtain ⟨vendor, s₄, vendored, ran⟩ := bind_ok_iff.1 ran
  have vendored := quiet_publishVendor _ _ _ vendored
  have coherent := vendored.coherent imaged.ran.coherent
  obtain ⟨_, s₅, compiled, ran⟩ := bind_ok_iff.1 ran
  obtain ⟨assets, compiled, paired⟩ := compileAssets_ok coherent compiled
  obtain ⟨_, s₆, rendered, ran⟩ := bind_ok_iff.1 ran
  obtain ⟨pages, rendered⟩ := compileAllPages_ok compiled.coherent rendered
  have noted : Alike s₆ s' := by
    dsimp only at ran
    split at ran
    · obtain ⟨_, s₇, noted, ran⟩ := bind_ok_iff.1 ran
      obtain ⟨-, rfl⟩ := pure_ok_iff.1 ran
      exact quiet_note _ _ _ _ noted
    · obtain ⟨-, rfl⟩ := pure_ok_iff.1 ran
      exact Alike.refl _
  have start : s₄.journal = images := by
    rw [vendored.journal, imaged.ran.journal, routed.journal, empty, List.append_nil]
  refine ⟨images, assets, pages, ?_, noted.coherent rendered.ran.coherent, ?_, paired, ?_, ?_, ?_⟩
  · rw [noted.journal, rendered.ran.journal, compiled.journal, start]
  · exact fun kind source names member => (imaged.made kind source names member).1
  · exact start ▸ compiled.given
  · exact rendered.pages
  · rw [← start, ← compiled.journal]
    exact rendered.ran.given

namespace Built

variable {images assets pages : Journal} {s : State}

/-- Nothing is published once the assets are. -/
theorem resolve_eq (built : Built images assets pages s) (path : String) :
    s.store.resolve path = Journal.resolve (assets ++ images) path := by
  rw [built.coherent.resolves, built.journal, built.last.resolve]

/-- A page is given the final path of each asset. -/
theorem page_final (built : Built images assets pages s) {source : String} {names : Names}
    (member : .made .page source names ∈ s.journal) {n : String × String} (named : n ∈ names) :
    n.2 = s.store.resolve n.1 := by
  have listed : .made .page source names ∈ pages := by
    rw [built.journal] at member
    rcases List.mem_append.1 member with listed | member
    · exact listed
    · rcases List.mem_append.1 member with member | member
      · exact absurd member (built.compiled.page_not_mem source names)
      · exact absurd member (built.unmade _ _ _)
  obtain ⟨later, earlier, split⟩ := List.append_of_mem listed
  obtain ⟨moment, resolved, near⟩ := (split ▸ built.rendered).of_mem
  have only : OnlyPages earlier := fun event member =>
    built.last event (split ▸ List.mem_append_right _ (List.mem_cons_of_mem _ member))
  have now : moment = earlier ++ (assets ++ images) := by
    rcases near with near | ⟨path, physical, before, rfl, -⟩
    · exact near
    · obtain ⟨_, _, same⟩ := only _ (List.mem_cons_self ..)
      cases same
  rw [resolved n named, now, only.resolve, built.resolve_eq]

/-- A path of which a source was given another than the final name was published by a script or
stylesheet after the source had looked it up. -/
theorem exists_later (built : Built images assets pages s) {later earlier : Journal}
    {source : String} {names : Names}
    (split : s.journal = later ++ .made .asset source names :: earlier) :
    ∃ moment, moment <:+ earlier ∧ Resolved moment names ∧
      ∀ n ∈ names, n.2 ≠ s.store.resolve n.1 → ∃ since other others physical before,
        s.journal = since ++ .made .asset other others :: .published n.1 physical :: before ∧
          moment <:+ before := by
  rw [built.journal] at split
  rcases Journal.append_eq_append_cons split with ⟨before, newest, -⟩ | ⟨after, -, split⟩
  · obtain ⟨_, _, same⟩ := built.last _ (newest ▸ List.mem_append_right _ (List.mem_cons_self ..))
    cases same
  rcases Journal.append_eq_append_cons split with ⟨before, middle, rfl⟩ | ⟨_, -, oldest⟩
  · obtain ⟨moment, resolved, near⟩ := (middle ▸ built.given).of_mem
    have within : images <:+ moment ∧ moment <:+ before ++ images := by
      rcases near with near | ⟨path, physical, rest, rfl, since, until_⟩
      · exact near
      · exact ⟨since, until_.trans (List.suffix_cons _ _)⟩
    refine ⟨moment, within.2, resolved, fun n named stale => ?_⟩
    obtain ⟨⟨since, rfl⟩, recent, until_⟩ := within
    have parts : assets = (after ++ .made .asset source names :: recent) ++ since := by
      rw [← List.append_assoc] at until_
      rw [middle, ← List.append_cancel_right until_]
      simp
    rw [resolved n named, built.resolve_eq, parts, List.append_assoc] at stale
    obtain ⟨physical, published⟩ := Journal.exists_published (Ne.symm stale)
    obtain ⟨newer, other, others, older, split⟩ :=
      (parts ▸ built.compiled).exists_made published
    refine ⟨pages ++ newer, other, others, physical, older ++ (since ++ images), ?_,
      List.suffix_append _ _⟩
    rw [built.journal, parts, split]
    simp
  · exact absurd (oldest ▸ List.mem_append_right _ (List.mem_cons_self ..)) (built.unmade _ _ _)

end Built

/-! ## Sites -/

/-- A site in production before its first build, with some entries below its sources. -/
def productionSite (entries : List (List String × Entry)) : State :=
  .initial Path.root ⟨⟨["src"]⟩, ⟨["public"]⟩⟩ .production false
    ⟨(⟨["src"]⟩, .directory) :: entries.map fun e => (⟨"src" :: e.1⟩, e.2)⟩

def textFile (text : String) : Entry :=
  .file (Text.encode text)

/-! ## What names are final -/

def firstScript : Path := ⟨["src", "assets", "js", "a.js"]⟩
def secondScript : Path := ⟨["src", "assets", "js", "b.js"]⟩

/-- Two scripts, the first of which looks up the second. -/
def twoScripts : State :=
  productionSite [(["assets"], .directory), (["assets", "js"], .directory),
    (["assets", "js", "a.js"], textFile "script_path('b.js')"),
    (["assets", "js", "b.js"], textFile "1")]

theorem isSome_get? {store : Asset.Store} {path : String} (moved : store.resolve path ≠ path) :
    (store.get? path).isSome := by
  rw [Option.isSome_iff_ne_none]
  intro unpublished
  rw [Asset.Store.resolve, unpublished] at moved
  exact moved rfl

theorem buildProject_twoScripts : succeeds (buildProject []) twoScripts (fun s =>
    (s.staleNames .asset firstScript.text).contains
      ("/assets/js/b.js", "/assets/js/b.js")) = true := by
  decide +kernel

end Folio.Build
