import Folio.Build.Page
import Folio.Proofs.Build.Project
import Folio.Proofs.FileTree.Below
import Folio.Proofs.FileTree.Proper

/-!
# Routes and pages

The route table is made of the page templates as they are found below the views, while the pages are
made of what their paths lead to. Both have the same page files in the same order just when each
template leads to one with the same page file (`roots_enumerate`), as it does where no link is on the
way. A link to another template, or out of the views, takes the page away.
-/

namespace Folio

theorem Layout.pageFile_eq_iff_names (l : Layout) {names other : List String} :
    l.pageFile names = l.pageFile other ↔ names.dropLast = other.dropLast ∧
      View.pageName (names.getLast?.getD "") = View.pageName (other.getLast?.getD "") := by
  constructor
  · intro same
    obtain ⟨directories, pages⟩ := List.append_singleton_inj.1 (congrArg Path.segments same)
    exact ⟨List.append_cancel_left directories, pages⟩
  · rintro ⟨directories, pages⟩
    rw [pageFile, pageFile, directories, pages]

namespace Build

variable {s : State} {names : List String}

/-- The page templates, in order, each by its names below the views. -/
def State.pageTemplates (s : State) : List (List String) :=
  s.templates.filterMap fun p =>
    (p.below? s.layout.views).filter fun names => View.isPage (joinSegments names)

/-- The page file of a root template; `none` if it lies outside the views. -/
def State.rootPage? (s : State) (root : Path) : Option Path :=
  (root.below? s.layout.views).map s.layout.pageFile

/-- Whether a template leads to one in the same directory and with a name for the same page. -/
def State.InPlace (s : State) (names : List String) : Prop :=
  ∃ other, s.files.resolve (s.layout.views.append names) = s.layout.views.append other ∧
    other.dropLast = names.dropLast ∧
    View.pageName (other.getLast?.getD "") = View.pageName (names.getLast?.getD "")

theorem append_of_below? {p base : Path} (below : p.below? base = some names) :
    base.append names = p := by
  obtain ⟨rest, rfl⟩ := Path.isBelow_iff.1 (Path.isBelow_of_below? below)
  rw [Path.below?_append] at below
  rw [Option.some.inj below]

theorem State.inPlace_iff : s.InPlace names ↔
    s.rootPage? (s.files.resolve (s.layout.views.append names)) = some (s.layout.pageFile names) := by
  unfold rootPage?
  rw [Option.map_eq_some_iff]
  constructor
  · rintro ⟨other, leads, same⟩
    exact ⟨other, by rw [leads, Path.below?_append], s.layout.pageFile_eq_iff_names.2 same⟩
  · rintro ⟨other, below, same⟩
    exact ⟨other, (append_of_below? below).symm, s.layout.pageFile_eq_iff_names.1 same⟩

/-- The roots are what the page templates lead to. -/
theorem State.roots_eq (s : State) :
    s.roots = s.pageTemplates.map fun names => s.files.resolve (s.layout.views.append names) := by
  rw [roots, pageTemplates, List.map_filterMap, ← List.filterMap_eq_map, List.filterMap_filter]
  congr 1
  funext p
  cases below : p.below? s.layout.views with
  | none => rfl
  | some names =>
    rw [← append_of_below? below]
    cases page : View.isPage (joinSegments names) <;> simp [page, Option.filter]

/-- The entry of a page template. -/
def State.entryOf (s : State) (names : List String) : Route.Entry :=
  let path := View.publicPath (joinSegments names)
  ⟨Route.helperName path, path, (s.layout.views.append names).text⟩

/-- The entries are those of the page templates. -/
theorem State.routeEntries_eq (s : State) : s.routeEntries = s.pageTemplates.map s.entryOf := by
  rw [routeEntries, pageTemplates, List.map_filterMap]
  congr 1
  funext p
  cases below : p.below? s.layout.views with
  | none => rfl
  | some names =>
    have named : (s.layout.views.append names).text ≠ "" := by simp [Path.text]
    rw [← append_of_below? below]
    cases page : View.isPage (joinSegments names) <;>
      simp [page, Option.filter, Route.entryFor, entryOf, named]

theorem State.mem_pageTemplates : names ∈ s.pageTemplates ↔
    s.layout.views.append names ∈ s.templates ∧ View.isPage (joinSegments names) = true := by
  rw [pageTemplates, List.mem_filterMap]
  constructor
  · rintro ⟨p, listed, kept⟩
    obtain ⟨below, page⟩ := Option.filter_eq_some_iff.1 kept
    exact ⟨append_of_below? below ▸ listed, page⟩
  · rintro ⟨listed, page⟩
    exact ⟨_, listed, Option.filter_eq_some_iff.2 ⟨Path.below?_append .., page⟩⟩

/-- A template without a link on the way is its own root. -/
theorem State.resolve_pageTemplate (whole : s.files.IsProper) (proper : s.layout.views.IsProper)
    (listed : names ∈ s.pageTemplates)
    (linkless : s.files.Linkless (s.layout.views.append names)) :
    s.files.resolve (s.layout.views.append names) = s.layout.views.append names :=
  FileTree.resolve_eq (whole.of_mem_filesBelow proper (mem_pageTemplates.1 listed).1) linkless

/-- Routes and roots enumerate the same page files in the same order just when each page template
leads to a template of the same page, as each one without a link on its way does. -/
theorem roots_enumerate (s : State) :
    s.routeEntries = s.pageTemplates.map s.entryOf ∧
    (s.roots.map s.rootPage? = s.pageTemplates.map (fun names => some (s.layout.pageFile names)) ↔
      ∀ names ∈ s.pageTemplates, s.InPlace names) ∧
    (s.files.IsProper → s.layout.views.IsProper → ∀ names ∈ s.pageTemplates,
      s.files.Linkless (s.layout.views.append names) → s.InPlace names) ∧
    (s.files.PlainBelow s.layout.views →
      s.roots = s.pageTemplates.map fun names => s.layout.views.append names) := by
  refine ⟨s.routeEntries_eq, ?_, ?_, ?_⟩
  · rw [s.roots_eq, List.map_map, List.map_inj_left]
    simp only [Function.comp_apply, State.inPlace_iff]
  · intro whole proper names listed linkless
    exact ⟨names, State.resolve_pageTemplate whole proper listed linkless, rfl, rfl⟩
  · intro plain
    rw [s.roots_eq]
    refine List.map_congr_left fun names listed => ?_
    obtain ⟨proper, -, below, -⟩ :=
      (FileTree.mem_filesBelow plain).1 (State.mem_pageTemplates.1 listed).1
    exact plain.resolve_eq proper below

/-- A site with a link to a template beside it and a link out of the views. -/
def linkedViews : State :=
  productionSite [(["page.html"], textFile "y"), (["views"], .directory),
    (["views", "about.html"], .link "index.html"), (["views", "index.html"], textFile "x"),
    (["views", "news.html"], .link "../page.html")]

/-- The page of a link to another template is made in place of its own, and a link out of the views
has no page. -/
theorem roots_enumerate_fails :
    linkedViews.routeEntries.map (·.path) = ["/about", "/", "/news"] ∧
    linkedViews.pageTemplates = [["about.html"], ["index.html"], ["news.html"]] ∧
    linkedViews.pageTemplates.map linkedViews.layout.pageFile =
      [⟨["public", "about.html"]⟩, ⟨["public", "index.html"]⟩, ⟨["public", "news.html"]⟩] ∧
    linkedViews.roots.map linkedViews.rootPage? =
      [some ⟨["public", "index.html"]⟩, some ⟨["public", "index.html"]⟩, none] := by
  decide +kernel

end Build

end Folio
