import Folio.Build.Rebuild
import Folio.Proofs.Build.Rebuild
import Folio.Proofs.Invariant

/-!
# Invariants of builds

An invariant of a build is kept by its assets (`Rules.buildAssets`) and by what a batch makes again
(`Rules.remake`) if it is kept by the single steps: by each source that a stage is given, by vendor
files, and by what is noted and forgotten. If each page keeps it too, so do builds and batches as a
whole (`Rules.buildPages`, `Rules.handle`). The same holds of the ways in which these steps may stop.
-/

namespace Folio.Build

variable {α : Type} {I : State → Prop} {E : Abort → State → Prop}

/-! ## Single steps -/

theorem keeps_belowOf {p directory : Path}
    (outside : ∀ s, I s → p.isBelow directory = false → E (.outside p) s) :
    Keeps I E (fun segments => p.below? directory = some segments) (belowOf p directory) := by
  unfold belowOf
  cases below : p.isBelow directory with
  | true =>
    obtain ⟨segments, found⟩ := exists_below? below
    rw [found]
    exact .pure rfl
  | false =>
    have none : p.below? directory = none := if_neg (Bool.eq_false_iff.1 below)
    rw [none]
    exact .throw fun s kept => outside s kept below

theorem keeps_onFiles {p : Path} {x : FileTree.Op α} {Q : α → Prop}
    (ok : ∀ s a files, I s → x s.files = .ok a files → I { s with files } ∧ Q a)
    (error : ∀ s problem files, I s → x s.files = .error problem files →
      I { s with files } ∧
        E (if problem = .unusablePath then .unusablePath p else .file problem p) { s with files }) :
    Keeps I E Q (onFiles p x) := by
  intro s start
  unfold onFiles
  cases ran : x s.files with
  | ok a files => exact ok s a files start ran
  | error problem files =>
    have kept := error s problem files start ran
    cases problem <;> exact kept

theorem keeps_realPathOf {p : Path} {Q : Path → Prop}
    (ok : ∀ s q, I s → realPath s.files p = .ok q → Q q)
    (error : ∀ s e, I s → realPath s.files p = .error e → E e s) :
    Keeps I E Q (realPathOf p) := by
  intro s start
  unfold realPathOf
  cases found : realPath s.files p with
  | ok q => exact ⟨start, ok s q start found⟩
  | error e => exact ⟨start, error s e start found⟩

/-! ## Stages -/

/-- Whether what is prepared of a source can be finished. -/
def Craft.Finishes (craft : Craft) (I : State → Prop) (E : Abort → State → Prop) (source : Path)
    (prepared : craft.Prepared) : Prop :=
  Keeps I E (fun o => ∀ file, o = .ok file → Keeps I E (fun _ => True) (logicalPathOf file))
    (craft.finish source prepared)

/-- Whether a source can be taken through both steps of a craft. -/
def Craft.Takes (craft : Craft) (I : State → Prop) (E : Abort → State → Prop) (source : Path) : Prop :=
  Keeps I E (fun out => ∀ prepared, out = .ok prepared → craft.Finishes I E source prepared)
    (craft.prepare source)

/-- Whether the sources of a lane can be taken to their end. -/
structure Lane.Takes {craft : Craft} (I : State → Prop) (E : Abort → State → Prop)
    (l : Lane craft) : Prop where
  prepared : ∀ source prepared, l.prepared = some (source, prepared) →
    craft.Finishes I E source prepared
  waiting : ∀ source ∈ l.waiting, craft.Takes I E source

section Stages

variable {craft : Craft} (note : ∀ line, Keeps I E (fun _ => True) (note line))

include note

theorem keeps_failWith (r : StageResult) (f : Fault) : Keeps I E (fun _ => True) (failWith r f) :=
  (note _).bind fun _ _ => .pure trivial

theorem Lane.keeps_step {l : Lane craft} (takes : l.Takes I E) : Keeps I E (Takes I E) l.step := by
  obtain ⟨prepared, waiting, r⟩ := l
  have rest (r : StageResult) (waiting : List Path)
      (each : ∀ source ∈ waiting, craft.Takes I E source) :
      Lane.Takes I E (⟨none, waiting, r⟩ : Lane craft) := ⟨fun _ _ same => (nomatch same), each⟩
  cases prepared with
  | some pair =>
    obtain ⟨source, prepared⟩ := pair
    refine (takes.prepared source prepared rfl).bind fun outcome made => ?_
    refine Keeps.bind (Q := fun _ => True) ?_ fun r _ => .pure (rest r waiting takes.waiting)
    cases outcome with
    | error f => exact keeps_failWith note _ f
    | ok file => exact (made file rfl).bind fun _ _ => .pure trivial
  | none =>
    cases waiting with
    | nil => exact .pure takes
    | cons source waiting =>
      have later : ∀ source ∈ waiting, craft.Takes I E source :=
        fun other member => takes.waiting other (List.mem_cons_of_mem _ member)
      refine (takes.waiting source (List.mem_cons_self ..)).bind fun out ready => ?_
      cases out with
      | error f => exact (keeps_failWith note _ f).bind fun r _ => .pure (rest r waiting later)
      | ok prepared =>
        refine .pure ⟨fun _ _ same => ?_, later⟩
        cases same
        exact ready prepared rfl

theorem Lane.keeps_run {count : Nat} {l : Lane craft} (takes : l.Takes I E) :
    Keeps I E (fun _ => True) (run count l) := by
  induction count generalizing l with
  | zero => exact .pure trivial
  | succ count ih => exact (keeps_step note takes).bind fun l takes => ih takes

theorem keeps_runAll {sources : List Path} (takes : ∀ source ∈ sources, craft.Takes I E source) :
    Keeps I E (fun _ => True) (runAll craft sources) :=
  Lane.keeps_run note ⟨fun _ _ same => (nomatch same), takes⟩

theorem keeps_compileScripts {sources : List Path}
    (takes : ∀ source ∈ sources, scriptCraft.Takes I E source) :
    Keeps I E (fun _ => True) (compileScripts (some sources)) :=
  keeps_runAll note takes

theorem keeps_compileStyles {sources : List Path}
    (takes : ∀ source ∈ sources, styleCraft.Takes I E source) :
    Keeps I E (fun _ => True) (compileStyles (some sources)) :=
  keeps_runAll note fun source member => takes source (List.mem_filter.1 member).1

theorem keeps_publishImages {sources : List Path}
    (takes : ∀ source ∈ sources, imageCraft.Takes I E source) :
    Keeps I E (fun _ => True) (publishImages (some sources)) :=
  keeps_runAll note takes

theorem keeps_runTogether {schedule : Schedule} {a : Lane scriptCraft} {b : Lane styleCraft}
    (scripts : a.Takes I E) (styles : b.Takes I E) :
    Keeps I E (fun _ => True) (runTogether schedule a b) := by
  induction schedule generalizing a b with
  | nil =>
    exact (Lane.keeps_run note scripts).bind fun _ _ =>
      (Lane.keeps_run note styles).bind fun _ _ => .pure trivial
  | cons turn rest ih =>
    cases turn with
    | script => exact (Lane.keeps_step note scripts).bind fun a scripts => ih scripts styles
    | style => exact (Lane.keeps_step note styles).bind fun b styles => ih scripts styles

end Stages

theorem keeps_compilePages {roots : List Path} {r : StageResult}
    (each : ∀ root ∈ roots, ∀ r, Keeps I E (fun _ => True) (addPage root r)) :
    Keeps I E (fun _ => True) (compilePages roots r) := by
  induction roots generalizing r with
  | nil => exact .pure trivial
  | cons root rest ih =>
    refine (each root (List.mem_cons_self ..) r).bind fun r _ => ih fun other member => ?_
    exact each other (List.mem_cons_of_mem _ member)

/-! ## Rules -/

/-- What keeps an invariant step by step. Names of sources are those in the dependency index that
`Named` admits. -/
structure Rules (I : State → Prop) (E : Abort → State → Prop) (l : Layout) (base : Path)
    (Named : String → Prop) : Prop where
  layout_eq : ∀ s, I s → s.layout = l
  base_eq : ∀ s, I s → s.base = base
  note : ∀ line, Keeps I E (fun _ => True) (note line)
  routes : ∀ s routes, I s → I { s with routes }
  forget : ∀ s name, I s → I { s with dependencies := s.dependencies.forget s.base name }
  vendor : Keeps I E (fun _ => True) publishVendor
  scripts : ∀ s, I s → ∀ p ∈ s.scripts, scriptCraft.Takes I E p
  styles : ∀ s, I s → ∀ p ∈ s.styles false, styleCraft.Takes I E p
  images : ∀ s, I s → ∀ p ∈ s.images, imageCraft.Takes I E p
  roots : ∀ s, I s → ∀ p ∈ s.roots, Named p.text
  dependents : ∀ s file, I s → ∀ d ∈ s.dependencies.dependentsOf s.base file, Named d
  existing : ∀ s name, I s → Named name →
    let p := Path.ofText s.base name
    s.files.isFile p = true → (p.isBelow s.layout.scripts = true → scriptCraft.Takes I E p) ∧
      (p.isBelow s.layout.styles = true → styleCraft.Takes I E p)

/-- Whether the real path of a change can be handled, wherever it lies. -/
structure Handles (I : State → Prop) (E : Abort → State → Prop) (l : Layout) (Named : String → Prop)
    (p : Path) : Prop where
  template : p.isBelow l.views = true → Named p.text
  script : p.isBelow l.scripts = true → scriptCraft.Takes I E p
  image : p.isBelow l.images = true →
    Asset.imageExtensions.contains (Text.lower (Name.extension p.name)) = true →
      imageCraft.Takes I E p

namespace Rules

variable {l : Layout} {base : Path} {Named : String → Prop} (rules : Rules I E l base Named)

include rules

theorem rebuildRoutes : Keeps I E (fun _ => True) rebuildRoutes := by
  refine .get_bind fun s _ => ?_
  refine (Keeps.forM fun line _ => rules.note line).bind fun _ _ => ?_
  exact (Keeps.modify fun s kept => rules.routes s _ kept).bind fun _ _ => .pure trivial

theorem publishImages : Keeps I E (fun _ => True) (publishImages none) :=
  .get_bind fun s kept => keeps_runAll rules.note (rules.images s kept)

theorem compileStyles : Keeps I E (fun _ => True) (compileStyles none) :=
  .get_bind fun s kept => keeps_runAll rules.note fun p member =>
    rules.styles s kept p (List.mem_filter.1 member).1

theorem compileAssets (schedule : Schedule) : Keeps I E (fun _ => True) (compileAssets schedule) :=
  .get_bind fun s kept => keeps_runTogether rules.note
    ⟨fun _ _ same => (nomatch same), rules.scripts s kept⟩
    ⟨fun _ _ same => (nomatch same), rules.styles s kept⟩

theorem buildCleaned (schedule : Schedule) : Keeps I E (fun _ => True) (buildCleaned schedule) :=
  rules.rebuildRoutes.bind fun _ _ => rules.publishImages.bind fun _ _ =>
    rules.vendor.bind fun _ _ => (rules.compileAssets schedule).bind fun _ _ => .pure trivial

theorem buildAssets (clean : Keeps I E (fun _ => True) clean) (schedule : Schedule) :
    Keeps I E (fun _ => True) (buildAssets schedule) :=
  clean.bind fun _ _ => rules.buildCleaned schedule

/-! ## Batches -/

theorem locateChanges {changes : List Change} (located : ∀ c ∈ changes,
    Keeps I E (Handles I E l Named) (realPathOf (Path.ofText base c.path))) :
    Keeps I E (fun cs : List Located => ∀ c ∈ cs, Handles I E l Named c.2) (locateChanges changes) := by
  refine .get_bind fun s kept => Keeps.mapM fun c member => ?_
  rw [rules.base_eq s kept]
  exact (located c (mem_sortBy.1 member)).bind fun p handles => .pure handles

/-- Whether what a batch changes can be handled. -/
structure Covers (I : State → Prop) (E : Abort → State → Prop) (l : Layout) (Named : String → Prop)
    (b : Batch) : Prop where
  templates : ∀ c ∈ b.templates, c.2.isBelow l.views = true ∧ Named c.2.text
  scripts : ∀ p ∈ b.scripts, scriptCraft.Takes I E p
  images : ∀ p ∈ b.images, imageCraft.Takes I E p

omit rules in
theorem Covers.add {b : Batch} {p : Path} (covers : Covers I E l Named b)
    (handles : Handles I E l Named p) (kind : ChangeKind) : Covers I E l Named (b.add l kind p) := by
  have more {α : Type} {P : α → Prop} {items : List α} (each : ∀ a ∈ items, P a) (last : α)
      (new : P last) : ∀ a ∈ items ++ [last], P a := by
    intro a member
    rcases List.mem_append.1 member with member | member
    · exact each a member
    · exact List.mem_singleton.1 member ▸ new
  unfold Batch.add
  dsimp only
  split
  · next views =>
    split
    · exact { covers with templates := more covers.templates (kind, p) ⟨views, handles.template views⟩ }
    · exact covers
  · split
    · next scripts =>
      split
      · exact { covers with scripts := more covers.scripts p (handles.script scripts) }
      · exact covers
    · split
      · exact { covers with }
      · split
        · next images =>
          split
          · next image =>
            exact { covers with images := more covers.images p (handles.image images image.2) }
          · exact covers
        · split
          · exact { covers with }
          · exact covers

omit rules in
theorem covers_ofChanges {located : List Located} (each : ∀ c ∈ located, Handles I E l Named c.2) :
    Covers I E l Named (Batch.ofChanges l located) := by
  have onward (b : Batch) (covers : Covers I E l Named b) :
      Covers I E l Named (located.foldl (fun b c => b.add l c.1 c.2) b) := by
    induction located generalizing b with
    | nil => exact covers
    | cons c rest ih =>
      exact ih (fun other member => each other (List.mem_cons_of_mem _ member)) _
        (covers.add (each c (List.mem_cons_self ..)) c.1)
  exact onward .empty ⟨fun _ member => (nomatch member), fun _ member => (nomatch member),
    fun _ member => (nomatch member)⟩

theorem affectedRoots {templates : List Located} {roots : List String}
    (each : ∀ c ∈ templates, c.2.isBelow l.views = true ∧ Named c.2.text)
    (named : ∀ name ∈ roots, Named name) :
    Keeps I E (fun roots => ∀ name ∈ roots, Named name) (affectedRoots templates roots) := by
  induction templates generalizing roots with
  | nil => exact .pure named
  | cons c rest ih =>
    obtain ⟨kind, p⟩ := c
    obtain ⟨views, name⟩ := each _ (List.mem_cons_self ..)
    have later : ∀ c ∈ rest, c.2.isBelow l.views = true ∧ Named c.2.text :=
      fun c member => each c (List.mem_cons_of_mem _ member)
    refine .get_bind fun s kept => ?_
    have more : ∀ name ∈ union roots (s.dependencies.dependentsOf s.base p.text), Named name := by
      intro other member
      rcases mem_union.1 member with member | member
      · exact named other member
      · exact rules.dependents s p.text kept other member
    dsimp only
    split
    · refine (Keeps.modify fun t kept => rules.forget t p.text kept).bind fun _ _ =>
        ih later fun other member => ?_
      exact more other (List.mem_filter.1 member).1
    · rw [rules.layout_eq s kept]
      refine (keeps_belowOf fun _ _ other => absurd (other.symm.trans views) Bool.false_ne_true).bind fun segments _ => ih later fun other member => ?_
      split at member
      · rcases mem_union.1 member with member | member
        · exact more other member
        · exact List.mem_singleton.1 member ▸ name
      · exact more other member

/-- Whether what a batch asks for can be made. -/
structure Plans (I : State → Prop) (E : Abort → State → Prop) (Named : String → Prop) (p : Plan) :
    Prop where
  scripts : ∀ source ∈ p.scripts, scriptCraft.Takes I E source
  roots : ∀ name ∈ p.roots, Named name

variable {changes : List Change} (located : ∀ c ∈ changes,
  Keeps I E (Handles I E l Named) (realPathOf (Path.ofText base c.path)))

include located

theorem plan : Keeps I E (Plans I E Named) (plan changes) := by
  refine .get_bind fun s kept => ?_
  rw [rules.layout_eq s kept]
  refine (rules.locateChanges located).bind fun cs each => ?_
  have covers := covers_ofChanges each
  refine (keeps_publishImages rules.note covers.images).bind fun images _ => ?_
  have vendor : Keeps I E (fun _ => True) (Batch.ofChanges l cs).publishVendor := by
    refine .get_bind fun s _ => ?_
    split
    · exact rules.vendor
    · exact .pure trivial
  have routes : Keeps I E (fun _ => True) (Batch.ofChanges l cs).rebuildRoutes := by
    unfold Batch.rebuildRoutes
    split
    · exact .pure trivial
    · refine rules.rebuildRoutes.bind fun changed _ => ?_
      split
      · exact (rules.note _).bind fun _ _ => .pure trivial
      · exact .pure trivial
  refine vendor.bind fun _ _ => routes.bind fun changed _ => .get_bind fun s kept => ?_
  refine (rules.affectedRoots covers.templates fun name member => ?_).bind fun roots named =>
    .pure ⟨fun source member => ?_, named⟩
  · split at member
    · obtain ⟨root, listed, rfl⟩ := List.mem_map.1 (Dependencies.mem_distinct.1 member)
      exact rules.roots s kept root listed
    · cases member
  · dsimp only at member
    split at member
    · exact rules.scripts s kept source member
    · exact covers.scripts source member

omit located in
theorem compile {p : Plan} (plans : Plans I E Named p) :
    Keeps I E (fun r => ∀ name ∈ r.roots, Named name) p.compile := by
  refine (keeps_compileScripts rules.note plans.scripts).bind fun _ _ => ?_
  have styles : Keeps I E (fun _ => True) (Build.compileStyles (if p.styles then none else some [])) := by
    split
    · exact rules.compileStyles
    · exact keeps_compileStyles rules.note fun _ member => nomatch member
  exact styles.bind fun _ _ => .get_bind fun s _ => .pure plans.roots

omit located in
theorem recompile {sources : List String} (named : ∀ name ∈ sources, Named name) :
    Keeps I E (fun _ => True) (recompile sources) := by
  refine .get_bind fun s kept => ?_
  have takes {p : Path} (member : p ∈ s.existing sources) :
      (p.isBelow s.layout.scripts = true → scriptCraft.Takes I E p) ∧
        (p.isBelow s.layout.styles = true → styleCraft.Takes I E p) := by
    obtain ⟨file, name, source, rfl⟩ := mem_existing.1 member
    exact rules.existing s name kept (named name source) file
  refine (keeps_compileScripts rules.note fun p member => ?_).bind fun _ _ =>
    (keeps_compileStyles rules.note fun p member => ?_).bind fun _ _ => .pure trivial
  · obtain ⟨stale, scripts⟩ := List.mem_filter.1 member
    exact (takes stale).1 scripts
  · obtain ⟨stale, styles⟩ := List.mem_filter.1 member
    exact (takes stale).2 styles

omit located in
theorem round {pending : List Path} {r : Rounds} (named : ∀ name ∈ r.roots, Named name) :
    Keeps I E (fun out => ∀ name ∈ out.2.roots, Named name) (round pending r) := by
  refine .get_bind fun s kept => ?_
  have dependents : ∀ name ∈ s.dependents pending, Named name := by
    intro name member
    obtain ⟨⟨p, -, depends⟩, -⟩ := mem_dependents.1 member
    exact rules.dependents s p.text kept name depends
  refine (rules.recompile fun name member => ?_).bind fun made _ => .pure fun name member => ?_
  · exact dependents name (List.mem_filter.1 member).1
  · rcases mem_union.1 member with member | member
    · exact named name member
    · exact dependents name (List.mem_filter.1 member).1

omit located in
theorem rounds {bound : Nat} {pending : List Path} {r : Rounds}
    (named : ∀ name ∈ r.roots, Named name) :
    Keeps I E (fun r => ∀ name ∈ r.roots, Named name) (rounds bound pending r) := by
  induction bound generalizing pending r with
  | zero => exact .pure named
  | succ bound ih =>
    cases pending with
    | nil => exact .pure named
    | cons p rest => exact (rules.round named).bind fun _ named => ih named

/-- What a batch makes again before its pages. -/
theorem remake : Keeps I E (fun r => ∀ name ∈ r.roots, Named name) (remake changes) :=
  (rules.plan located).bind fun _ plans => (rules.compile plans).bind fun _ named =>
    .get_bind fun _ _ => rules.rounds named

/-! ## Pages -/

omit located in
/-- A full build renders the pages of the roots that it finds once its assets are made. -/
theorem buildPages (schedule : Schedule)
    (page : ∀ s, I s → ∀ root ∈ s.roots, ∀ r, Keeps I E (fun _ => True) (addPage root r)) :
    Keeps I E (fun _ => True) (do
      let assets ← Build.buildCleaned schedule
      let pages ← compileAllPages
      let report := assets.append pages
      if !report.ok then Build.note s!"Build finished with {report.failures.length} error(s)"
      return report) := by
  refine (rules.buildCleaned schedule).bind fun assets _ => ?_
  have pages : Keeps I E (fun _ => True) compileAllPages :=
    .get_bind fun s kept => keeps_compilePages fun root listed => page s kept root listed
  refine pages.bind fun pages _ => ?_
  dsimp only
  split
  · exact (rules.note _).bind fun _ _ => .pure trivial
  · exact .pure trivial

/-- A batch renders the pages of the names that are files. -/
theorem handle (page : ∀ s name, I s → Named name →
    let root := Path.ofText s.base name
    s.files.isFile root = true → ∀ r, Keeps I E (fun _ => True) (addPage root r)) :
    Keeps I E (fun _ => True) (handle changes) := by
  refine (rules.remake located).bind fun r named => .get_bind fun s kept => ?_
  refine keeps_compilePages fun root listed => ?_
  obtain ⟨file, name, member, rfl⟩ := mem_existing.1 listed
  exact page s name kept (named name member) file

end Rules

end Folio.Build
