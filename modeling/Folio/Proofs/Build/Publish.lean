import Folio.Proofs.Asset.Fingerprint
import Folio.Proofs.Build.Project
import Folio.Proofs.FileTree.Below
import Folio.Proofs.Layout

/-!
# Published files

In production each published content lies in a file of its own. `Stocked` is what every publication
keeps (`Stocked.publish`): below the output lies, for each recorded path, one file under its
physical path with the content that the path was last given, and no other file and no link
(`publishAll_files`).
-/

namespace Folio

namespace Build

open FileTree

variable {l : Layout} {s t : State} {path other : String} {content content' : Bytes}
  {done : List (String × Bytes)}

/-! ## Files of assets -/

/-- Whether a public path is one of an asset: in normal form and of a category. -/
def IsAssetPath (path : String) : Prop :=
  ∃ p : Path, p.IsProper ∧ p.text = path ∧ (Asset.categoryOf path).isSome

/-- The path under which content is published in production. -/
def physicalPath (path : String) (content : Bytes) : String :=
  Asset.fingerprinted path (Digest.ofContent (some Asset.digestLength) content)

theorem physical_eq {store : Asset.Store} (enabled : store.enabled = true) (path : String)
    (content : Bytes) : store.physical path content = physicalPath path content := by
  rw [Asset.Store.physical, enabled]
  rfl

theorem get?_published_of_enabled (enabled : s.store.enabled = true) (path : String)
    (content : Bytes) (other : String) : (s.published path content).store.get? other =
      if other = path then some (physicalPath path content) else s.store.get? other := by
  simp only [get?_published, enabled, physical_eq enabled, true_and]

/-- The file of content that is published in production. -/
def assetFile (l : Layout) (path : String) (content : Bytes) : Path :=
  l.outputFile (physicalPath path content)

theorem name_append {p : Path} (below : p ≠ Path.root) (d : Path) :
    (d.append p.segments).name = p.name := by
  have some : p.segments ≠ [] := fun none => below (congrArg Path.mk none)
  simp [Path.append, Path.name, List.getLast?_append, List.getLast?_eq_some_getLast some]

theorem append_ne_root {p : Path} (below : p ≠ Path.root) (d : Path) :
    d.append p.segments ≠ Path.root := fun top =>
  below (congrArg Path.mk (List.append_eq_nil_iff.1 (congrArg Path.segments top)).2)

/-- The file of an asset is found by giving its name a digest. -/
theorem assetFile_text {p : Path} (proper : p.IsProper) (below : p ≠ Path.root) :
    assetFile l p.text content = Asset.digestPath (l.output.append p.segments)
      (Digest.ofContent (some Asset.digestLength) content) := by
  have some : p.segments ≠ [] := fun none => below (congrArg Path.mk none)
  have digested := Asset.digestPath_isProper proper (Digest.ofContent_isShort content)
  rw [assetFile, physicalPath, Asset.fingerprinted_text proper.plain below,
    Layout.outputFile_text _ digested.plain]
  unfold Asset.digestPath
  rw [name_append below]
  simp [Path.withName, Path.append, List.dropLast_append_of_ne_nil some]

namespace IsAssetPath

theorem exists_path (asset : IsAssetPath path) : ∃ p : Path, p.IsProper ∧ p ≠ Path.root ∧
    p.text = path ∧ ¬ ".tmp".toList <:+ p.name.toList := by
  obtain ⟨p, proper, rfl, category⟩ := asset
  have below : p ≠ Path.root := by
    rintro rfl
    exact absurd category (by decide +kernel)
  refine ⟨p, proper, below, rfl, fun ends => ?_⟩
  rw [Asset.categoryOf_temporary] at category
  · exact absurd category (by decide)
  · rw [← Path.child_parent below, Asset.text_child]
    exact ends.trans (List.suffix_append ..)

theorem assetFile_isProper (asset : IsAssetPath path) (output : l.output.IsProper)
    (content : Bytes) : (assetFile l path content).IsProper := by
  obtain ⟨p, proper, below, rfl, -⟩ := asset.exists_path
  rw [assetFile_text proper below]
  refine Asset.digestPath_isProper (fun segment member => ?_) (Digest.ofContent_isShort content)
  rcases List.mem_append.1 member with member | member
  · exact output segment member
  · exact proper segment member

theorem parent_assetFile_isBelow (asset : IsAssetPath path) (l : Layout) (content : Bytes) :
    (assetFile l path content).parent.isBelow l.output = true := by
  obtain ⟨p, proper, below, rfl, -⟩ := asset.exists_path
  rw [assetFile_text proper below, Asset.digestPath, Path.parent_withName]
  refine (Path.eq_or_isBelow_parent (Path.isBelow_append ..)).resolve_left fun same => below ?_
  exact congrArg Path.mk (List.append_right_eq_self.1 (congrArg Path.segments same.symm))

theorem assetFile_isBelow (asset : IsAssetPath path) (l : Layout) (content : Bytes) :
    (assetFile l path content).isBelow l.output = true :=
  Path.isBelow_trans (Path.isBelow_parent _) (asset.parent_assetFile_isBelow l content)

/-- Different contents or paths have different files, unless a path has both under one name. -/
theorem assetFile_inj (asset : IsAssetPath path) (asset' : IsAssetPath other)
    (same : assetFile l path content = assetFile l other content') :
    path = other ∧ physicalPath path content = physicalPath other content' := by
  obtain ⟨p, proper, below, rfl, -⟩ := asset.exists_path
  obtain ⟨p', proper', below', rfl, -⟩ := asset'.exists_path
  rw [assetFile_text proper below, assetFile_text proper' below'] at same
  obtain ⟨places, digits⟩ := Asset.digestPath_inj (append_ne_root below _) (append_ne_root below' _)
    (Digest.ofContent_isShort content) (Digest.ofContent_isShort content') same
  obtain rfl : p = p' :=
    congrArg Path.mk (List.append_cancel_left (congrArg Path.segments places))
  exact ⟨rfl, by rw [physicalPath, physicalPath, digits]⟩

theorem assetFile_ne_temporary (asset : IsAssetPath path) (l : Layout) (content : Bytes)
    (p : Path) : assetFile l path content ≠ Op.temporary p := by
  obtain ⟨q, proper, below, rfl, lasting⟩ := asset.exists_path
  rw [assetFile_text proper below]
  refine Asset.digestPath_ne_temporary (Digest.ofContent_isShort content) ?_ p
  rwa [name_append below]

theorem physicalPath_ne_empty (asset : IsAssetPath path) (content : Bytes) :
    physicalPath path content ≠ "" := by
  obtain ⟨p, proper, below, rfl, -⟩ := asset.exists_path
  rw [physicalPath, Asset.fingerprinted_text proper.plain below, Path.text]
  intro same
  have first := congrArg String.toList same
  simp at first

end IsAssetPath

/-! ## Publications -/

/-- Whether the output holds what some publications, the newest first, come to: one file for each
path that was published, with the content that the path was last given, and no other file. -/
structure Stocked (done : List (String × Bytes)) (s : State) : Prop where
  enabled : s.store.enabled = true
  output : s.layout.output.IsProper
  linkless : ∀ q, q.isBelow s.layout.output = true ∨ s.layout.output.isBelow q = true →
    ¬ s.files.HasLink q
  assets : ∀ path content, done.lookup path = some content → IsAssetPath path
  records : ∀ path, s.store.get? path = (done.lookup path).map (physicalPath path)
  files : ∀ q content, q.isBelow s.layout.output = true →
    (s.files.get? q = some (.file content) ↔
      ∃ path, done.lookup path = some content ∧ q = assetFile s.layout path content)
  named : ∀ path content, done.lookup path = some content →
    s.files.target? (assetFile s.layout path content) = some (.file content)

namespace Stocked

/-- No link is on the way to what lies below the output. -/
theorem linkless_below (stocked : Stocked done s) {p : Path}
    (below : p.isBelow s.layout.output = true) : s.files.Linkless p :=
  fun q above => stocked.linkless q (Path.isBelow_total above below)

theorem wrote (stocked : Stocked done s) (asset : IsAssetPath path) {u : FileTree}
    (ran : Op.write (assetFile s.layout path content) content s.files = .ok () u) :
    Wrote (assetFile s.layout path content) content s.files u := by
  refine Op.write_ok (asset.assetFile_isProper stocked.output content)
    (stocked.linkless_below (asset.assetFile_isBelow s.layout content)) ?_ ran
  refine stocked.linkless _ (Or.inl (Path.isBelow_trans (Path.isBelow_parent _) ?_))
  rw [Op.parent_temporary]
  exact asset.parent_assetFile_isBelow s.layout content

/-- After a file was written below the output, each other file is there as it was. -/
theorem get?_of_wrote (stocked : Stocked done s) {p q : Path} {u : FileTree}
    (wrote : Wrote p content s.files u) (below : q.isBelow s.layout.output = true) (other : q ≠ p)
    (content' : Bytes) :
    u.get? q = some (.file content') ↔ s.files.get? q = some (.file content') := by
  constructor
  · intro found
    rcases wrote.fresh q _ found with before | same | ⟨same, -⟩
    · exact before
    · exact absurd same other
    · cases same
  · intro found
    obtain ⟨path, last, place⟩ := (stocked.files q content' below).1 found
    refine wrote.kept q _ found other ?_
    rw [place]
    exact (stocked.assets path content' last).assetFile_ne_temporary _ _ _

/-- What becomes of the files below an output when content of a path is written and the earlier file
of the path goes. -/
structure Replaced (l : Layout) (done : List (String × Bytes)) (path : String) (content : Bytes)
    (t u : FileTree) : Prop where
  links : ∀ q, u.HasLink q → t.HasLink q
  ways : KeepsWays t u
  files : ∀ q content', q.isBelow l.output = true → (u.get? q = some (.file content') ↔
    (q = assetFile l path content ∧ content' = content) ∨
      q ≠ assetFile l path content ∧ (∀ earlier, done.lookup path = some earlier →
        q ≠ assetFile l path earlier) ∧ t.get? q = some (.file content'))
  named : u.target? (assetFile l path content) = some (.file content)

/-- Where the earlier file of a path is no other than the new one nothing more has to go. -/
theorem replaced_of_wrote (stocked : Stocked done s) {u : FileTree}
    (wrote : Wrote (assetFile s.layout path content) content s.files u)
    (single : ∀ earlier, done.lookup path = some earlier →
      assetFile s.layout path earlier = assetFile s.layout path content) :
    Replaced s.layout done path content s.files u where
  links q := wrote.links
  ways := wrote.ways
  files q content' below := by
    by_cases here : q = assetFile s.layout path content
    · subst here
      rw [wrote.file]
      simp [eq_comm]
    · rw [stocked.get?_of_wrote wrote below here]
      refine ⟨fun found => Or.inr ⟨here, fun earlier last => ?_, found⟩, fun cases => ?_⟩
      · rwa [single earlier last]
      · exact (cases.resolve_left fun same => here same.1).2.2
  named := wrote.named

/-- Otherwise the earlier file is removed. -/
theorem replaced_of_removed (stocked : Stocked done s) (asset : IsAssetPath path) {u u' : FileTree}
    (wrote : Wrote (assetFile s.layout path content) content s.files u) {earlier : Bytes}
    (last : done.lookup path = some earlier)
    (other : assetFile s.layout path earlier ≠ assetFile s.layout path content)
    (ran : Op.remove (assetFile s.layout path earlier) u = .ok () u') :
    Replaced s.layout done path content s.files u' := by
  have below := asset.assetFile_isBelow s.layout earlier
  have proper := asset.assetFile_isProper stocked.output earlier
  have there : u.get? (assetFile s.layout path earlier) = some (.file earlier) := by
    rw [stocked.get?_of_wrote wrote below other]
    exact (stocked.files _ _ below).2 ⟨path, last, rfl⟩
  have linkless {p : Path} (inside : p.isBelow s.layout.output = true) : u.Linkless p :=
    fun q above link => stocked.linkless_below inside q above (wrote.links link)
  have named : u.target? (assetFile s.layout path earlier) = some (.file earlier) := by
    refine target?_persists wrote.ways (stocked.named path earlier last) fun q reached => ?_
    rw [locateTarget_eq proper (stocked.linkless_below below) reached, there]
    exact ((stocked.files _ _ below).2 ⟨path, last, rfl⟩).symm
  obtain rfl := Op.remove_ok proper (linkless below) named ran
  have top : assetFile s.layout path earlier ≠ Path.root := by
    intro same
    rw [same] at there
    cases there
  have erased : KeepsWays u (u.erase (assetFile s.layout path earlier)) := by
    intro q e found unlike
    rw [get?_erase_of_ne, found]
    rintro rfl
    exact unlike earlier (Option.some.inj (found.symm.trans there))
  refine ⟨fun q link => ?_, fun q e found unlike => ?_, fun q content' inside => ?_, ?_⟩
  · obtain ⟨target, found⟩ := link
    by_cases gone : q = assetFile s.layout path earlier
    · rw [gone, get?_erase_self top] at found
      cases found
    · rw [get?_erase_of_ne gone] at found
      exact wrote.links ⟨target, found⟩
  · exact erased q e (wrote.ways q e found unlike) unlike
  · by_cases gone : q = assetFile s.layout path earlier
    · rw [gone, get?_erase_self top]
      simp [last, other]
    · rw [get?_erase_of_ne gone]
      by_cases here : q = assetFile s.layout path content
      · subst here
        rw [wrote.file]
        simp [eq_comm]
      · rw [stocked.get?_of_wrote wrote inside here]
        refine ⟨fun found => Or.inr ⟨here, fun earlier' last' => ?_, found⟩, fun cases => ?_⟩
        · rw [last] at last'
          cases last'
          exact gone
        · exact (cases.resolve_left fun same => here same.1).2.2
  · refine target?_persists erased wrote.named fun q reached => ?_
    rw [locateTarget_eq (asset.assetFile_isProper stocked.output content)
      (linkless (asset.assetFile_isBelow s.layout content)) reached, get?_erase_of_ne other.symm]

/-- A publication replaces what its path had. -/
theorem publish_files (stocked : Stocked done s) (asset : IsAssetPath path) {file : Path}
    (ran : publish path content s = .ok file t) :
    Alike (s.published path content) t ∧ Replaced s.layout done path content s.files t.files := by
  refine ⟨(publish_ok ran).2, ?_⟩
  obtain ⟨_, _, got, ran⟩ := bind_ok_iff.1 ran
  obtain ⟨rfl, rfl⟩ := get_ok_iff.1 got
  obtain ⟨_, s₁, recorded, ran⟩ := bind_ok_iff.1 ran
  obtain rfl := modify_ok_iff.1 recorded
  obtain ⟨_, s₂, written, ran⟩ := bind_ok_iff.1 ran
  obtain ⟨_, s₃, removed, ran⟩ := bind_ok_iff.1 ran
  obtain ⟨_, s₄, noted, ran⟩ := bind_ok_iff.1 ran
  obtain ⟨-, rfl⟩ := pure_ok_iff.1 ran
  obtain rfl := modify_ok_iff.1 noted
  rw [physical_eq stocked.enabled] at written removed
  obtain ⟨written, after⟩ := onFiles_ok written
  have wrote := stocked.wrote asset written
  rw [stocked.records path] at removed
  change Replaced s.layout done path content s.files s₃.files
  cases last : done.lookup path with
  | none =>
    rw [last] at removed
    obtain ⟨-, rfl⟩ := pure_ok_iff.1 removed
    exact stocked.replaced_of_wrote wrote fun earlier found => by simp [last] at found
  | some earlier =>
    rw [last] at removed
    simp only [Option.map_some, removeEarlier] at removed
    split at removed
    · next other =>
      obtain ⟨_, _, got, removed⟩ := bind_ok_iff.1 removed
      obtain ⟨rfl, rfl⟩ := get_ok_iff.1 got
      obtain ⟨removed, -⟩ := onFiles_ok removed
      rw [after] at removed
      refine stocked.replaced_of_removed asset wrote last (fun same => other.2 ?_) removed
      exact (asset.assetFile_inj asset same).2
    · next same =>
      obtain ⟨-, rfl⟩ := pure_ok_iff.1 removed
      refine stocked.replaced_of_wrote wrote fun earlier' found => ?_
      rw [last] at found
      cases found
      have physical : physicalPath path earlier = physicalPath path content := by
        by_contra different
        exact same ⟨asset.physicalPath_ne_empty earlier, different⟩
      rw [assetFile, assetFile, physical]

/-- The step: one more publication, whatever is published and whatever was. -/
theorem publish (stocked : Stocked done s) (asset : IsAssetPath path) {file : Path}
    (ran : publish path content s = .ok file t) : Stocked ((path, content) :: done) t := by
  obtain ⟨alike, replaced⟩ := stocked.publish_files asset ran
  have layout : t.layout = s.layout := alike.layout
  have store : t.store = s.store.publish path content := alike.store
  have here (other : String) : ((path, content) :: done).lookup other =
      if other = path then some content else done.lookup other := by
    rw [List.lookup_cons]
    by_cases same : other = path
    · simp [same]
    · rw [beq_eq_false_iff_ne.2 same, if_neg same]
  have files (q : Path) (content' : Bytes) (below : q.isBelow s.layout.output = true) :
      t.files.get? q = some (.file content') ↔ ∃ other,
        ((path, content) :: done).lookup other = some content' ∧
          q = assetFile s.layout other content' := by
    rw [replaced.files q content' below, stocked.files q content' below]
    constructor
    · rintro (⟨place, rfl⟩ | ⟨-, gone, other, last, place⟩)
      · exact ⟨path, by simp [here], place⟩
      · have unlike : other ≠ path := by
          rintro rfl
          exact gone content' last place
        exact ⟨other, by rw [here, if_neg unlike, last], place⟩
    · rintro ⟨other, last, place⟩
      rw [here] at last
      split at last
      · next same =>
        subst same
        cases last
        exact Or.inl ⟨place, rfl⟩
      · next unlike =>
        have asset' := stocked.assets other content' last
        refine Or.inr ⟨fun same => unlike ?_, fun earlier _ same => unlike ?_, other, last, place⟩
        · exact (asset'.assetFile_inj asset (place.symm.trans same)).1
        · exact (asset'.assetFile_inj asset (place.symm.trans same)).1
  refine ⟨?_, layout ▸ stocked.output, ?_, fun other content' last => ?_, fun other => ?_,
    layout ▸ files, fun other content' last => ?_⟩
  · rw [store, Asset.Store.publish, if_pos stocked.enabled]
    exact stocked.enabled
  · rw [layout]
    exact fun q near link => stocked.linkless q near (replaced.links q link)
  · rw [here] at last
    split at last
    · next same => exact same ▸ asset
    · exact stocked.assets other content' last
  · rw [store, here]
    refine (get?_published_of_enabled stocked.enabled path content other).trans ?_
    split
    · next same => rw [same, Option.map_some]
    · exact stocked.records other
  · have asset' : IsAssetPath other := by
      rw [here] at last
      split at last
      · next same => exact same ▸ asset
      · exact stocked.assets other content' last
    have below := asset'.assetFile_isBelow s.layout content'
    have there := (files _ _ below).2 ⟨other, last, rfl⟩
    rw [layout]
    rw [here] at last
    split at last
    · next same =>
      subst same
      cases last
      exact replaced.named
    · refine target?_persists replaced.ways (stocked.named other content' last) fun q reached => ?_
      rw [locateTarget_eq (asset'.assetFile_isProper stocked.output content')
        (stocked.linkless_below below) reached, there]
      exact ((stocked.files _ _ below).2 ⟨other, last, rfl⟩).symm

end Stocked

/-- Publishes some contents in turn. -/
def publishAll : List (String × Bytes) → Build Unit
  | [] => pure ()
  | (path, content) :: rest => do
    let _ ← publish path content
    publishAll rest

/-- The run: what was published is in stock, the last content of each path first. -/
theorem Stocked.publishAll {ops : List (String × Bytes)} (stocked : Stocked done s)
    (assets : ∀ op ∈ ops, IsAssetPath op.1) (ran : publishAll ops s = .ok () t) :
    Stocked (ops.reverse ++ done) t := by
  induction ops generalizing s done with
  | nil =>
    obtain ⟨-, rfl⟩ := pure_ok_iff.1 ran
    exact stocked
  | cons op ops ih =>
    obtain ⟨path, content⟩ := op
    obtain ⟨asset, assets⟩ := List.forall_mem_cons.1 assets
    obtain ⟨file, s₁, published, ran⟩ := bind_ok_iff.1 ran
    rw [List.reverse_cons, List.append_assoc]
    exact ih (stocked.publish asset published) assets ran

/-- Whether a generation of output begins: nothing is recorded and nothing lies below the output. -/
structure Bare (s : State) : Prop where
  enabled : s.store.enabled = true
  records : s.store.records = []
  output : s.layout.output.IsProper
  linkless : s.files.Linkless s.layout.output
  empty : ∀ q e, q.isBelow s.layout.output = true → s.files.get? q = some e → e = .directory

theorem Bare.stocked (bare : Bare s) : Stocked [] s where
  enabled := bare.enabled
  output := bare.output
  linkless q near := by
    rcases near with below | above
    · rintro ⟨target, found⟩
      cases bare.empty q _ below found
    · exact bare.linkless q above
  assets _ _ last := nomatch last
  records path := by
    rw [Asset.Store.get?, bare.records]
    rfl
  files q content below := by
    constructor
    · intro found
      cases bare.empty q _ below found
    · rintro ⟨path, last, -⟩
      cases last
  named _ _ last := nomatch last

/-- The files that lie below the output after any publications of a generation are those of the
recorded paths, each under the physical path of the content that its path was last given. No
publication touches what another path has. -/
theorem publishAll_files {ops : List (String × Bytes)} (bare : Bare s)
    (assets : ∀ op ∈ ops, IsAssetPath op.1) (ran : publishAll ops s = .ok () t) :
    (∀ path, t.store.get? path = (ops.reverse.lookup path).map (physicalPath path)) ∧
    (∀ q e, q.isBelow t.layout.output = true → e ≠ .directory → (t.files.get? q = some e ↔
      ∃ path physical content, t.store.get? path = some physical ∧
        ops.reverse.lookup path = some content ∧ q = t.layout.outputFile physical ∧
          e = .file content)) ∧
    (∀ path physical, t.store.get? path = some physical →
      (∃ content, ops.reverse.lookup path = some content ∧
        t.files.target? (t.layout.outputFile physical) = some (.file content)) ∧
      ∀ other physical', t.store.get? other = some physical' →
        t.layout.outputFile physical = t.layout.outputFile physical' → path = other) ∧
    ∀ before path content after file s₁ s₂, ops = before ++ (path, content) :: after →
      publishAll before s = .ok () s₁ → publish path content s₁ = .ok file s₂ →
        ∀ other physical, other ≠ path → s₁.store.get? other = some physical →
          s₂.store.get? other = some physical ∧
            s₂.files.get? (s₂.layout.outputFile physical) =
              s₁.files.get? (s₁.layout.outputFile physical) := by
  have stocked := bare.stocked.publishAll assets ran
  rw [List.append_nil] at stocked
  have recorded {path physical : String} (found : t.store.get? path = some physical) :
      ∃ content, ops.reverse.lookup path = some content ∧ physicalPath path content = physical := by
    rw [stocked.records path] at found
    exact Option.map_eq_some_iff.1 found
  refine ⟨stocked.records, fun q e below unlike => ?_, fun path physical found => ⟨?_, ?_⟩, ?_⟩
  · cases e with
    | directory => exact absurd rfl unlike
    | link target =>
      refine ⟨fun found => absurd ⟨target, found⟩ (stocked.linkless q (Or.inl below)), ?_⟩
      rintro ⟨_, _, _, -, -, -, same⟩
      cases same
    | file content =>
      rw [stocked.files q content below]
      constructor
      · rintro ⟨path, last, rfl⟩
        exact ⟨path, _, content, by rw [stocked.records, last]; rfl, last, rfl, rfl⟩
      · rintro ⟨path, physical, content', found, last, rfl, same⟩
        cases same
        obtain ⟨content', last', rfl⟩ := recorded found
        rw [last] at last'
        cases last'
        exact ⟨path, last, rfl⟩
  · obtain ⟨content, last, rfl⟩ := recorded found
    exact ⟨content, last, stocked.named path content last⟩
  · intro other physical' found' same
    obtain ⟨content, last, rfl⟩ := recorded found
    obtain ⟨content', last', rfl⟩ := recorded found'
    exact ((stocked.assets _ _ last).assetFile_inj (stocked.assets _ _ last') same).1
  · rintro before path content after file s₁ s₂ rfl first published other physical unlike found
    have before_assets : ∀ op ∈ before, IsAssetPath op.1 :=
      fun op member => assets op (List.mem_append_left _ member)
    have asset : IsAssetPath path := assets (path, content) (by simp)
    have stocked₁ := bare.stocked.publishAll before_assets first
    have stocked₂ := stocked₁.publish asset published
    rw [stocked₁.records] at found
    obtain ⟨content', last, rfl⟩ := Option.map_eq_some_iff.1 found
    have last₂ : ((path, content) :: (before.reverse ++ [])).lookup other = some content' := by
      rw [List.lookup_cons, beq_eq_false_iff_ne.2 unlike]
      exact last
    have asset' := stocked₁.assets other content' last
    refine ⟨by rw [stocked₂.records, last₂]; rfl, ?_⟩
    have there₁ := (stocked₁.files _ _ (asset'.assetFile_isBelow _ content')).2 ⟨other, last, rfl⟩
    have there₂ := (stocked₂.files _ _ (asset'.assetFile_isBelow _ content')).2 ⟨other, last₂, rfl⟩
    exact there₂.trans there₁.symm

theorem bare_productionSite : Bare (productionSite []) where
  enabled := rfl
  records := rfl
  output := by decide
  linkless := by decide
  empty q e _ found := by
    change (if q = Path.root then some Entry.directory else
      [((⟨["src"]⟩ : Path), Entry.directory)].lookup q) = some e at found
    rw [List.lookup_cons, List.lookup_nil] at found
    split at found
    · exact (Option.some.inj found).symm
    · split at found
      · exact (Option.some.inj found).symm
      · cases found

/-- A script is given its first content again, next to a stylesheet. -/
def republications : List (String × Bytes) :=
  [("/assets/js/a.js", [49]), ("/assets/css/a.css", [50]), ("/assets/js/a.js", [50]),
    ("/assets/js/a.js", [49])]

theorem republications_assets : ∀ op ∈ republications, IsAssetPath op.1 := by
  have script : IsAssetPath "/assets/js/a.js" := ⟨⟨["assets", "js", "a.js"]⟩, by decide +kernel⟩
  have style : IsAssetPath "/assets/css/a.css" := ⟨⟨["assets", "css", "a.css"]⟩, by decide +kernel⟩
  simp [republications, script, style]

theorem publishAll_files_of_republications : ∃ t,
    publishAll republications (productionSite []) = .ok () t ∧
    (∀ path, t.store.get? path = (republications.reverse.lookup path).map (physicalPath path)) ∧
    ∀ path physical, t.store.get? path = some physical →
      ∃ content, republications.reverse.lookup path = some content ∧
        t.files.target? (t.layout.outputFile physical) = some (.file content) := by
  have returns : passes (publishAll republications) (productionSite []) (fun _ _ => true) = true := by
    decide +kernel
  obtain ⟨_, t, ran, -⟩ := exists_of_passes returns
  obtain ⟨records, -, named, -⟩ := publishAll_files bare_productionSite republications_assets ran
  exact ⟨t, ran, records, fun path physical found => (named path physical found).1⟩

end Build

end Folio
