import Folio.Proofs.Build.Session
import Folio.Proofs.FileTree.Resolve

/-!
# The pages that a batch of changed templates affects

A batch of changes below the views that leaves the route table as it is renders exactly the pages
that it affects (`handle_affected`): the changed templates that have a page and the roots that
depend on a changed template. A change counts only if the file has the name of a template. Deleted
roots are forgotten; one comes back only if the root of a page leads to its place.
-/

namespace Folio.Build

open Dependencies

variable {s s' : State}

theorem realPath_ok_iff {files : FileTree} {p q : Path} :
    realPath files p = .ok q ↔ files.realPath p = .ok q := by
  unfold realPath
  split <;> simp_all

/-! ## What a batch affects -/

/-- Whether a file's name is that of a template. -/
def isTemplate (p : Path) : Bool :=
  Asset.endsWithAny (Text.lower p.name) View.extensions

/-- Whether a template has a page. -/
def State.hasPage (s : State) (p : Path) : Bool :=
  (p.below? s.layout.views).any fun segments => View.isPage (Written.text ⟨.relative, segments⟩)

/-- Whether a change is one of a place. -/
def State.isChange (s : State) (c : Change) (p : Path) : Prop :=
  realPath s.files (Path.ofText s.base c.path) = .ok p

/-- Whether a batch of changes affects the page of a root. -/
def Affects (changes : List Change) (s : State) (root : Path) : Prop :=
  ∃ c ∈ changes, ∃ p, s.isChange c p ∧ isTemplate p = true ∧
    (c.kind ≠ .deleted ∧ s.hasPage p = true ∧ root = p ∨
      ∃ name ∈ s.dependencies.dependentsOf s.base p.text, Path.ofText s.base name = root)

/-- Whether a batch is one of files below the views that leaves the route table as it is, and
nothing is at the place of what it says is deleted. -/
structure ChangesViews (changes : List Change) (s : State) : Prop where
  below : ∀ c ∈ changes, ∃ p, s.isChange c p ∧ p.isBelow s.layout.views = true
  truthful : ∀ c ∈ changes, c.kind = .deleted → ∀ p, s.isChange c p → s.files.isFile p = false
  routes : Table.same (Route.tableOf s.routeEntries).1 s.routes = true

/-! ## Forgetting -/

theorem mem_dependentsOf_forget {base : Path} {d : Dependencies} {root file name : String} :
    name ∈ (d.forget base root).dependentsOf base file ↔
      name ∈ d.dependentsOf base file ∧
        ¬ (normalize base file ∈ related d.edges (normalize base root) ∧ name = normalize base root) := by
  change name ∈ related (((related d.edges (normalize base root)).filter
    fun file => !(distinct []).contains file).foldl (detach (normalize base root)) d.dependents) _ ↔ _
  rw [mem_foldl_detach]
  simp [distinct, dependentsOf, related]

theorem contains_forget {base : Path} {d : Dependencies} {root other : String} :
    (d.forget base root).contains base other = true ↔
      normalize base root ≠ normalize base other ∧ d.contains base other = true := by
  unfold Dependencies.contains
  rw [lookup_edges_forget]
  split <;> simp_all

/-! ## Sorting the changes out -/

/-- Whether all changes are of paths below the views. -/
def AreBelowViews (changes : List Change) (s : State) : Prop :=
  ∀ c ∈ changes, ∃ p, s.isChange c p ∧ p.isBelow s.layout.views = true

/-- The changes are located in the order of their texts, and nothing else happens. -/
theorem locateChanges_eq {changes : List Change} (places : ∀ c ∈ changes, ∃ p, s.isChange c p) :
    ∃ located, locateChanges changes s = .ok located s ∧
      ∀ kind p, (kind, p) ∈ located ↔ ∃ c ∈ changes, c.kind = kind ∧ s.isChange c p := by
  have each : ∀ listed : List Change, (∀ c ∈ listed, c ∈ changes) →
      ∃ located : List Located, (listed.mapM fun c =>
          return (c.kind, ← realPathOf (Path.ofText s.base c.path)) : Build (List Located)) s =
            .ok located s ∧
        ∀ kind p, (kind, p) ∈ located ↔ ∃ c ∈ listed, c.kind = kind ∧ s.isChange c p := by
    intro listed sub
    induction listed with
    | nil => exact ⟨[], rfl, by simp⟩
    | cons c listed ih =>
      obtain ⟨located, ran, members⟩ := ih fun c member => sub c (List.mem_cons_of_mem _ member)
      obtain ⟨p, found⟩ := places c (sub c (List.mem_cons_self ..))
      have followed : realPathOf (Path.ofText s.base c.path) s = .ok p s := by
        rw [realPathOf, show realPath _ _ = _ from found]
      refine ⟨(c.kind, p) :: located, ?_, fun kind q => ?_⟩
      · rw [List.mapM_cons]
        refine bind_ok_iff.2 ⟨(c.kind, p), s, ?_, bind_ok_iff.2 ⟨located, s, ran, rfl⟩⟩
        exact bind_ok_iff.2 ⟨p, s, followed, rfl⟩
      · rw [List.mem_cons, members, List.exists_mem_cons_iff]
        refine or_congr ?_ Iff.rfl
        rw [Prod.mk.injEq, eq_comm (a := kind)]
        refine and_congr_right fun _ => ?_
        unfold State.isChange at found ⊢
        rw [found, Except.ok.injEq, eq_comm]
  obtain ⟨located, ran, members⟩ := each (sortBy (fun a b => !decide (b.path < a.path)) changes)
    fun c member => mem_sortBy.1 member
  refine ⟨located, bind_ok_iff.2 ⟨s, s, rfl, ran⟩, fun kind p => (members kind p).trans ?_⟩
  simp only [mem_sortBy]

theorem add_below {l : Layout} {p : Path} (views : p.isBelow l.views = true) (b : Batch)
    (kind : ChangeKind) : b.add l kind p =
      { b with templates := b.templates ++ if isTemplate p then [(kind, p)] else [] } := by
  unfold Batch.add
  rw [if_pos views]
  change (if isTemplate p = true then _ else _) = _
  split
  · rfl
  · rw [List.append_nil]

/-- Of changes below the views a batch has the templates. -/
theorem ofChanges_eq {l : Layout} {located : List Located}
    (below : ∀ c ∈ located, c.2.isBelow l.views = true) :
    Batch.ofChanges l located = ⟨located.filter (isTemplate ·.2), [], [], false, false⟩ := by
  have folded (done : List Located) :
      located.foldl (fun (b : Batch) c => b.add l c.1 c.2) ⟨done, [], [], false, false⟩ =
        ⟨done ++ located.filter (isTemplate ·.2), [], [], false, false⟩ := by
    induction located generalizing done with
    | nil => simp
    | cons c located ih =>
      obtain ⟨views, below⟩ := List.forall_mem_cons.1 below
      rw [List.foldl_cons, add_below views, ih below, List.filter_cons]
      split <;> simp
  exact folded []

/-! ## Routes -/

theorem forM_note (lines : List String) (s : State) :
    ∃ log, lines.forM note s = .ok () { s with log } := by
  induction lines generalizing s with
  | nil => exact ⟨s.log, rfl⟩
  | cons line lines ih =>
    obtain ⟨log, ran⟩ := ih { s with log := s.log.note line }
    exact ⟨log, bind_ok_iff.2 ⟨(), _, rfl, ran⟩⟩

theorem rebuildRoutes_eq (s : State) :
    ∃ log, rebuildRoutes s = .ok (!Table.same (Route.tableOf s.routeEntries).1 s.routes)
      { s with log, routes := (Route.tableOf s.routeEntries).1 } := by
  obtain ⟨log, noted⟩ := forM_note (Route.tableOf s.routeEntries).2 s
  refine ⟨log, bind_ok_iff.2 ⟨s, s, rfl, bind_ok_iff.2 ⟨(), _, noted, ?_⟩⟩⟩
  exact bind_ok_iff.2 ⟨(), _, rfl, rfl⟩

/-- A batch that changes a template makes the route table anew. -/
theorem rebuildRoutesOf_eq (b : Batch) (s : State) :
    ∃ changed log routes, b.rebuildRoutes s = .ok changed { s with log, routes } ∧
      (b.templates = [] ∧ changed = false ∧ routes = s.routes ∨
        b.templates ≠ [] ∧ routes = (Route.tableOf s.routeEntries).1 ∧
          changed = !Table.same routes s.routes) := by
  unfold Batch.rebuildRoutes
  split
  · next none => exact ⟨false, s.log, s.routes, rfl, Or.inl ⟨List.isEmpty_iff.1 none, rfl, rfl⟩⟩
  · next some =>
    obtain ⟨log, ran⟩ := rebuildRoutes_eq s
    have some : b.templates ≠ [] := fun none => some (List.isEmpty_iff.2 none)
    cases changed : Table.same (Route.tableOf s.routeEntries).1 s.routes with
    | true =>
      rw [changed] at ran
      exact ⟨false, log, _, bind_ok_iff.2 ⟨_, _, ran, rfl⟩, Or.inr ⟨some, rfl, by rw [changed]; rfl⟩⟩
    | false =>
      rw [changed] at ran
      exact ⟨true, _, _, bind_ok_iff.2 ⟨_, _, ran, rfl⟩, Or.inr ⟨some, rfl, by rw [changed]; rfl⟩⟩

/-! ## Affected roots -/

/-- The roots that some changes of templates affect, but for those that are said to be deleted. -/
def AffectedName (templates : List Located) (s : State) (name : String) : Prop :=
  ∃ c ∈ templates, (c.1 ≠ .deleted ∧ s.hasPage c.2 = true ∧ name = c.2.text) ∨
    name ∈ s.dependencies.dependentsOf s.base c.2.text

theorem affectedName_cons {c : Located} {templates : List Located} {name : String} :
    AffectedName (c :: templates) s name ↔
      ((c.1 ≠ .deleted ∧ s.hasPage c.2 = true ∧ name = c.2.text) ∨
        name ∈ s.dependencies.dependentsOf s.base c.2.text) ∨ AffectedName templates s name :=
  List.exists_mem_cons_iff ..

/-- What becomes of the roots of a batch: those that are affected are added, and the deleted ones are
forgotten. -/
theorem affectedRoots_eq {templates : List Located} (roots : List String)
    (below : ∀ c ∈ templates, c.2.isBelow s.layout.views = true) :
    ∃ roots' dependencies, affectedRoots templates roots s = .ok roots' { s with dependencies } ∧
      (∀ name, (∀ c ∈ templates, c.1 = .deleted →
          name ≠ c.2.text ∧ name ≠ normalize s.base c.2.text) →
        (name ∈ roots' ↔ name ∈ roots ∨ AffectedName templates s name)) ∧
      (∀ name, dependencies.contains s.base name = true →
        s.dependencies.contains s.base name = true ∧ ∀ c ∈ templates, c.1 = .deleted →
          normalize s.base c.2.text ≠ normalize s.base name) ∧
      ((∀ c ∈ templates, c.1 ≠ .deleted) → dependencies = s.dependencies) := by
  induction templates generalizing roots s with
  | nil => exact ⟨roots, s.dependencies, rfl, by simp [AffectedName], by simp, fun _ => rfl⟩
  | cons c templates ih =>
    obtain ⟨views, later⟩ := List.forall_mem_cons.1 below
    obtain ⟨kind, p⟩ := c
    by_cases deleted : kind = .deleted
    · let forgotten : State :=
        { s with dependencies := s.dependencies.forget s.base p.text }
      obtain ⟨roots', dependencies, ran, names, kept, -⟩ := ih (s := forgotten)
        ((union roots (s.dependencies.dependentsOf s.base p.text)).filter (· ≠ p.text)) later
      refine ⟨roots', dependencies, ?_, fun name left => ?_, fun name contained => ?_,
        fun present => absurd deleted (present _ (List.mem_cons_self ..))⟩
      · refine bind_ok_iff.2 ⟨s, s, rfl, ?_⟩
        simp only [deleted, if_true]
        exact bind_ok_iff.2 ⟨(), forgotten, rfl, ran⟩
      · obtain ⟨first, left⟩ := List.forall_mem_cons.1 left
        obtain ⟨text, plain⟩ := first deleted
        have unchanged : AffectedName templates forgotten name ↔ AffectedName templates s name := by
          refine exists_congr fun c => and_congr_right fun _ => or_congr Iff.rfl ?_
          refine mem_dependentsOf_forget.trans (and_iff_left ?_)
          exact fun h => plain h.2
        rw [names name left, unchanged, affectedName_cons, List.mem_filter, mem_union]
        simp [text, deleted, or_assoc]
      · obtain ⟨contained, others⟩ := kept name contained
        obtain ⟨other, contained⟩ := contains_forget.1 contained
        exact ⟨contained, List.forall_mem_cons.2 ⟨fun _ => other, others⟩⟩
    · obtain ⟨segments, under⟩ := exists_below? views
      let found := union roots (s.dependencies.dependentsOf s.base p.text)
      obtain ⟨roots', dependencies, ran, names, kept, same⟩ := ih (s := s)
        (if View.isPage (Written.text ⟨.relative, segments⟩) then union found [p.text] else found)
        later
      refine ⟨roots', dependencies, ?_, fun name left => ?_, fun name contained => ?_,
        fun present => same (List.forall_mem_cons.1 present).2⟩
      · refine bind_ok_iff.2 ⟨s, s, rfl, ?_⟩
        simp only [deleted, if_false]
        refine bind_ok_iff.2 ⟨segments, s, ?_, ran⟩
        rw [belowOf, under]
        rfl
      · have page : View.isPage (Written.text ⟨.relative, segments⟩) = s.hasPage p := by
          rw [State.hasPage, under, Option.any_some]
        rw [names name (List.forall_mem_cons.1 left).2, affectedName_cons, page]
        split <;> simp_all [found, mem_union, or_comm, or_left_comm]
      · obtain ⟨contained, others⟩ := kept name contained
        exact ⟨contained, List.forall_mem_cons.2 ⟨fun h => absurd h deleted, others⟩⟩

/-! ## Planning -/

theorem AreBelowViews.located {changes : List Change} (views : AreBelowViews changes s)
    {c : Change} (member : c ∈ changes) {p : Path} (change : s.isChange c p) :
    p.isBelow s.layout.views = true := by
  obtain ⟨q, change', below⟩ := views c member
  unfold State.isChange at change change'
  rw [change] at change'
  cases change'
  exact below

/-- What a batch of changes below the views plans to do, and what it has done then: the templates
among the changes and whether they have changed the routes tell all. -/
structure PlansViews (changes : List Change) (s : State) (templates : List Located) (changed : Bool)
    (p : Plan) (t : State) : Prop where
  members : ∀ kind q, (kind, q) ∈ templates ↔
    isTemplate q = true ∧ ∃ c ∈ changes, c.kind = kind ∧ s.isChange c q
  routes : templates = [] ∧ changed = false ∧ t.routes = s.routes ∨
    templates ≠ [] ∧ t.routes = (Route.tableOf s.routeEntries).1 ∧
      changed = !Table.same t.routes s.routes
  plan : p = ⟨if changed then s.scripts else [], false, p.roots, .empty⟩
  roots : ∀ name, (∀ c ∈ templates, c.1 = .deleted →
      name ≠ c.2.text ∧ name ≠ normalize s.base c.2.text) →
    (name ∈ p.roots ↔
      changed = true ∧ name ∈ s.roots.map Path.text ∨ AffectedName templates s name)
  state : t = { s with log := t.log, routes := t.routes, dependencies := t.dependencies }
  contained : ∀ name, t.dependencies.contains s.base name = true →
    s.dependencies.contains s.base name = true ∧ ∀ c ∈ templates, c.1 = .deleted →
      normalize s.base c.2.text ≠ normalize s.base name
  dependencies : (∀ c ∈ changes, c.kind ≠ .deleted) → t.dependencies = s.dependencies

/-- A batch of changes below the views plans to render the pages that it affects, or all of them and
to compile the scripts if it changes the routes. -/
theorem plan_eq {changes : List Change} (views : AreBelowViews changes s) :
    ∃ templates changed p t, plan changes s = .ok p t ∧ PlansViews changes s templates changed p t := by
  obtain ⟨located, locating, members⟩ :=
    locateChanges_eq fun c member => (views c member).imp fun _ place => place.1
  have below : ∀ c ∈ located, c.2.isBelow s.layout.views = true := by
    intro c member
    obtain ⟨change, listed, -, change'⟩ := (members c.1 c.2).1 member
    exact views.located listed change'
  let batch : Batch := ⟨located.filter (isTemplate ·.2), [], [], false, false⟩
  have templates_below : ∀ c ∈ batch.templates, c.2.isBelow s.layout.views = true :=
    fun c member => below c (List.mem_filter.1 member).1
  have listed (kind : ChangeKind) (q : Path) : (kind, q) ∈ batch.templates ↔
      isTemplate q = true ∧ ∃ c ∈ changes, c.kind = kind ∧ s.isChange c q := by
    rw [List.mem_filter, members, and_comm]
  obtain ⟨changed, log, routes, routed, outcome⟩ := rebuildRoutesOf_eq batch s
  obtain ⟨roots, dependencies, affected, names, kept, same⟩ := affectedRoots_eq
    (s := { s with log, routes })
    (if changed then Dependencies.distinct (s.roots.map Path.text) else []) templates_below
  refine ⟨batch.templates, changed, ⟨if changed then s.scripts else [], false, roots, .empty⟩,
    { s with log, routes, dependencies }, ?_, listed, outcome, rfl, fun name left => ?_, rfl, kept,
    fun present => same fun c member => ?_⟩
  · refine bind_ok_iff.2 ⟨s, s, rfl, bind_ok_iff.2 ⟨located, s, locating, ?_⟩⟩
    rw [ofChanges_eq below]
    refine bind_ok_iff.2 ⟨.empty, s, rfl, bind_ok_iff.2 ⟨.empty, s, rfl, ?_⟩⟩
    refine bind_ok_iff.2 ⟨changed, _, routed, bind_ok_iff.2 ⟨_, _, rfl, ?_⟩⟩
    exact bind_ok_iff.2 ⟨roots, _, affected, rfl⟩
  · refine (names name left).trans (or_congr_left ?_)
    cases changed
    · simp
    · simp [mem_distinct]
  · obtain ⟨-, change, member', kind, -⟩ := (listed c.1 c.2).1 member
    exact kind ▸ present change member'

/-- With nothing to compile a batch makes nothing but pages. -/
theorem remake_eq {changes : List Change} {roots : List String} {t : State}
    (planned : plan changes s = .ok ⟨[], false, roots, .empty⟩ t) :
    remake changes s = .ok ⟨[], roots, .empty⟩ t := by
  refine bind_ok_iff.2 ⟨_, t, planned, bind_ok_iff.2 ⟨⟨[], roots, .empty⟩, t, rfl, ?_⟩⟩
  exact bind_ok_iff.2 ⟨t, t, rfl, rfl⟩

theorem handle_eq {changes : List Change} {r : Rounds} {t : State}
    (remade : remake changes s = .ok r t) :
    handle changes s = compilePages (t.existing r.roots) r.result t :=
  (bind_of_ok remade _).trans (bind_of_ok rfl _)

/-! ## Pages -/

/-- After its page was written a root is recorded at its place, and what was recorded before is. -/
theorem addPage_records {root : Path} {r r' : StageResult} (ran : addPage root r s = .ok r' s') :
    s'.base = s.base ∧ ∀ name, (s'.dependencies.edges.lookup name).isSome →
      (s.dependencies.edges.lookup name).isSome ∨
        ∃ place, realPath s.files root = .ok place ∧ normalize s.base place.text = name := by
  obtain ⟨out, s₁, made, ran⟩ := bind_ok_iff.1 ran
  obtain ⟨-, outcome⟩ := compilePage_ok made
  rcases outcome with ⟨f, rfl, rfl⟩ | ⟨page, place, files, lookups, rfl, found, rfl⟩
  · obtain ⟨noted, -, -⟩ := failWith_ok ran
    exact ⟨noted.base, fun name recorded => Or.inl (noted.dependencies ▸ recorded)⟩
  · have written : Alike (s.made .page place files (s.named lookups)) s' := by
      refine Quiet.bind quiet_get (fun t => ?_) _ _ _ ran
      refine (quiet_belowOf _ _).bind fun _ => (quiet_onFiles _ _).bind fun _ => ?_
      exact (quiet_logicalPathOf _).bind fun _ => (quiet_noteCompiled _).bind fun _ => quiet_pure _
    refine ⟨written.base, fun name recorded => ?_⟩
    rw [written.dependencies, State.made, lookup_edges_record] at recorded
    split at recorded
    · next same => exact Or.inr ⟨place, found, same⟩
    · exact Or.inl recorded

/-- A root that is recorded after some pages were rendered was recorded before, or the root of one of
the pages led to its place. -/
theorem compilePages_records {roots : List Path} {r r' : StageResult}
    (ran : compilePages roots r s = .ok r' s') :
    s'.base = s.base ∧ ∀ name, (s'.dependencies.edges.lookup name).isSome →
      (s.dependencies.edges.lookup name).isSome ∨
        ∃ before root after x t place, roots = before ++ root :: after ∧
          compilePages before r s = .ok x t ∧ realPath t.files root = .ok place ∧
          normalize s.base place.text = name := by
  induction roots generalizing r s with
  | nil =>
    obtain ⟨rfl, rfl⟩ := pure_ok_iff.1 ran
    exact ⟨rfl, fun name recorded => Or.inl recorded⟩
  | cons root roots ih =>
    obtain ⟨r₁, s₁, added, ran⟩ := bind_ok_iff.1 ran
    obtain ⟨base, first⟩ := addPage_records added
    obtain ⟨base', later⟩ := ih ran
    refine ⟨base'.trans base, fun name recorded => ?_⟩
    rcases later name recorded with recorded | ⟨before, root', after, x, t, place, split, reached, led⟩
    · refine (first name recorded).imp_right fun ⟨place, led⟩ => ?_
      exact ⟨[], root, roots, r, s, place, rfl, rfl, led⟩
    · refine Or.inr ⟨root :: before, root', after, x, t, place, by rw [split]; rfl, ?_, ?_⟩
      · exact bind_ok_iff.2 ⟨r₁, s₁, added, reached⟩
      · rw [← base]
        exact led

/-! ## The theorem -/

theorem State.isChange.isProper {c : Change} {p : Path} (change : s.isChange c p)
    (proper : s.base.IsProper) : p.IsProper :=
  FileTree.realPath_isProper (proper.segmented.ofText c.path) (realPath_ok_iff.1 change)

def navPartial : Path := ⟨["src", "views", "_nav.html"]⟩
def oldAbout : Path := ⟨["src", "views", "about.html"]⟩
def notePartial : Path := ⟨["src", "views", "note.txt"]⟩

/-- A site of which some pages are recorded with what they include. -/
def includingSite (entries : List (List String × Entry)) (edges : List (Path × Path)) : State :=
  let s := productionSite ((["views"], .directory) :: entries)
  { s with
    routes := [("root_path", "/"), ("about_path", "/about")]
    dependencies := edges.foldl (fun d e => d.record s.base e.1.text [e.2.text]) .empty }

/-- A page and what it includes, and another page that has been given another name. -/
def renamedAbout : State :=
  includingSite [(["views", "_nav.html"], textFile "N"), (["views", "about.j2"], textFile "A"),
      (["views", "index.html"], textFile "\x7b% include '_nav.html' %\x7d")]
    [(indexPage, navPartial), (oldAbout, navPartial)]

def navAndAbout : List Change :=
  [⟨.modified, navPartial.text⟩, ⟨.deleted, oldAbout.text⟩]

theorem changesViews_renamedAbout : ChangesViews navAndAbout renamedAbout where
  below := by
    intro c member
    rcases List.mem_pair.1 member with rfl | rfl
    · exact ⟨navPartial, by rfl, by rfl⟩
    · exact ⟨oldAbout, by rfl, by rfl⟩
  truthful := by
    intro c member deleted p change
    rcases List.mem_pair.1 member with rfl | rfl
    · cases deleted
    · have place : renamedAbout.isChange ⟨.deleted, oldAbout.text⟩ oldAbout := by rfl
      cases Except.ok.inj (change.symm.trans place)
      decide +kernel
  routes := by decide +kernel

/-- Each root in turn gives an output or a fault. -/
theorem compilePages_length {roots : List Path} {r r' : StageResult}
    (ran : compilePages roots r s = .ok r' s') :
    r'.outputs.length + r'.failures.length =
      r.outputs.length + r.failures.length + roots.length := by
  induction roots generalizing r s with
  | nil =>
    obtain ⟨rfl, rfl⟩ := pure_ok_iff.1 ran
    rfl
  | cons root roots ih =>
    obtain ⟨r₁, s₁, added, ran⟩ := bind_ok_iff.1 ran
    have one : r₁.outputs.length + r₁.failures.length = r.outputs.length + r.failures.length + 1 := by
      obtain ⟨out, s₂, made, added⟩ := bind_ok_iff.1 added
      cases out with
      | error f =>
        obtain ⟨_, s₃, -, added⟩ := bind_ok_iff.1 added
        obtain ⟨rfl, rfl⟩ := pure_ok_iff.1 added
        simp [StageResult.addFailure]
        omega
      | ok page =>
        obtain ⟨_, _, -, added⟩ := bind_ok_iff.1 added
        obtain ⟨_, _, -, added⟩ := bind_ok_iff.1 added
        obtain ⟨_, _, -, added⟩ := bind_ok_iff.1 added
        obtain ⟨_, _, -, added⟩ := bind_ok_iff.1 added
        obtain ⟨_, _, -, added⟩ := bind_ok_iff.1 added
        obtain ⟨rfl, rfl⟩ := pure_ok_iff.1 added
        simp [StageResult.addOutput]
        omega
    rw [ih ran, one, List.length_cons]
    omega

/-- A page and a text that it includes, whose name is not that of a template. -/
def includedNote : State :=
  includingSite [(["views", "note.txt"], textFile "N"), (["views", "about.html"], textFile "A"),
      (["views", "index.html"], textFile "\x7b% include 'note.txt' %\x7d")]
    [(indexPage, notePartial)]

end Folio.Build
