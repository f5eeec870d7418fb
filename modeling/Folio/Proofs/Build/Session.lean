import Folio.Proofs.Build.Rebuild

/-!
# Sessions

A session is a full build and then batches of changes, between which files change in any way. No
page of a session names an asset by a path that it no longer has, as long as the page's root stays a
file in its own place (`session_pages`). A root that has become a link is followed when its page is
rendered, and the page is then recorded under the name that the link leads to.
-/

namespace Folio.Build

/-- The states between the steps of a session whose steps return without failures. Before each batch
the files have become any others that the batch admits. -/
inductive Session (admits : List Change → State → FileTree → Prop) : State → Prop
  | built {schedule : Schedule} {r : StageResult} {s s' : State}
      (ran : buildProject schedule s = .ok r s') (none : r.failures = []) : Session admits s'
  | batch {changes : List Change} {files : FileTree} {r : StageResult} {s s' : State}
      (session : Session admits s) (admitted : admits changes s files)
      (ran : handle changes { s with files } = .ok r s') (none : r.failures = []) :
      Session admits s'

namespace Session

variable {admits : List Change → State → FileTree → Prop} {s : State}

theorem mono {others : List Change → State → FileTree → Prop}
    (weaker : ∀ changes s files, admits changes s files → others changes s files)
    (session : Session admits s) : Session others s := by
  induction session with
  | built ran none => exact .built ran none
  | batch session admitted ran none ih => exact .batch ih (weaker _ _ _ admitted) ran none

theorem coherent (session : Session admits s) : Coherent s := by
  induction session with
  | built ran none =>
    obtain ⟨_, _, _, built⟩ := buildProject_ok ran
    exact built.coherent
  | batch session admitted ran none ih =>
    obtain ⟨new, ran⟩ := handle_ran (ih.with_files _) ran
    exact ran.coherent

end Session

/-! ## Pages -/

/-- While it is recorded, a root is a file in its own place at every moment of a batch. -/
def StaysPlain (root : Path) (changes : List Change) (s : State) : Prop :=
  ∀ t, Moment changes s t → t.dependencies.contains t.base root.text = true → IsPlain t root

theorem contains_text {s : State} {root : Path} (proper : root.IsProper) :
    s.dependencies.contains s.base root.text = (s.dependencies.edges.lookup root.text).isSome := by
  rw [Dependencies.contains, proper.normalize_eq]

/-- A batch leaves no page stale that was up to date and whose root it finds in its place. -/
theorem handle_pages {changes : List Change} {result : StageResult} {s s' : State} {root : Path}
    (coherent : Coherent s) (ran : handle changes s = .ok result s') (none : result.failures = [])
    (proper : root.IsProper) (views : root.isBelow s.layout.views = true)
    (plain : StaysPlain root changes s) (fresh : ∀ n, ¬ IsStale s .page root.text n)
    (n : String × String) : ¬ IsStale s' .page root.text n := by
  intro stale
  obtain ⟨r, t, remade, rendered⟩ := handle_ok ran
  obtain ⟨start, coherent', -⟩ := remake_induction (motive := fun _ _ _ => True) coherent
    (fun _ _ => trivial) (fun _ _ _ _ => trivial) remade
  obtain ⟨new', pages, -, turns⟩ := compilePages_ok coherent' rendered
  obtain ⟨unmade, stale'⟩ := pages.isStale stale
  have reached : root.text ∈ r.roots :=
    remake_pages coherent remade proper.single (by rwa [proper.ofText_eq]) fresh stale'
  have there := plain t (.round start) ((contains_text proper).trans stale'.recorded)
  have listed : root ∈ t.existing r.roots :=
    mem_existing.2 ⟨there.file, _, reached, proper.ofText_eq t.base⟩
  obtain ⟨before, after, split⟩ := List.append_of_mem listed
  obtain ⟨x, t', turn⟩ := exists_turn (split ▸ rendered)
  obtain ⟨_, sofar, -, -⟩ := compilePages_ok coherent' turn
  have recorded := sofar.recorded _ stale'.recorded
  have plain' := plain t' (.page remade split turn) ((contains_text proper).trans recorded)
  obtain ⟨place, found, -, made⟩ := turns before root after x t' split turn
  rw [plain'.place] at found
  cases found
  obtain ⟨names, member⟩ := made none
  rw [proper.normalize_eq] at member
  exact Journal.last?_eq_none_iff.1 unmade _ _ member

def ChangeKind.between? : Option Entry → Option Entry → Option ChangeKind
  | none, none => none
  | none, some _ => some .added
  | some _, none => some .deleted
  | some old, some new => if old = new then none else some .modified

/-- Some changes are those between two trees. -/
def Lists (changes : List Change) (before after : FileTree) : Prop :=
  ∀ (kind : ChangeKind) (p : Path), p.IsProper →
    (⟨kind, p.text⟩ ∈ changes ↔ ChangeKind.between? (before.get? p) (after.get? p) = some kind)

theorem between?_self (e : Option Entry) : ChangeKind.between? e e = none := by
  cases e with
  | none => rfl
  | some e => exact if_pos rfl

theorem text_inj {p q : Path} (one : p.IsProper) (two : q.IsProper) : p.text = q.text ↔ p = q := by
  refine ⟨fun same => ?_, congrArg Path.text⟩
  rw [← one.ofText_eq Path.root, same, two.ofText_eq]

theorem lists_put {files : FileTree} {p : Path} {old new : Entry} (proper : p.IsProper)
    (below : p ≠ Path.root) (found : files.get? p = some old) (changed : old ≠ new) :
    Lists [⟨.modified, p.text⟩] files (files.put p new) := by
  intro kind q proper'
  rw [List.mem_singleton, Change.mk.injEq, text_inj proper' proper]
  by_cases same : q = p
  · subst same
    rw [found, FileTree.get?_put_self below]
    simp [ChangeKind.between?, changed, eq_comm]
  · rw [FileTree.get?_put_of_ne same, between?_self]
    simp [same]

/-- Whether a file changes, and the batch of just that finds a page in its place at every moment and
returns without failures, in a state that passes a test. -/
def edits (page p : Path) (e : Entry) (test : State → Bool) (s : State) : Bool :=
  (s.files.get? p).any (· ≠ e) &&
    passesMoments (fun t => decide (IsPlain t page)) 9 [⟨.modified, p.text⟩]
      { s with files := s.files.put p e } &&
    succeeds (handle [⟨.modified, p.text⟩]) { s with files := s.files.put p e } test

/-- What batches admit that list all changes and find a page in its place. -/
def ListsPlain (page : Path) (changes : List Change) (s : State) (files : FileTree) : Prop :=
  Lists changes s.files files ∧ StaysPlain page changes { s with files }

theorem Session.edits {page p : Path} {e : Entry} {test : State → Bool} {s : State}
    (session : Session (ListsPlain page) s) (proper : p.IsProper) (below : p ≠ Path.root)
    (holds : edits page p e test s = true) :
    ∃ s', Session (ListsPlain page) s' ∧ test s' = true := by
  simp only [Build.edits, Bool.and_eq_true, Option.any_eq_true, decide_eq_true_eq] at holds
  obtain ⟨⟨⟨old, found, changed⟩, moments⟩, handled⟩ := holds
  obtain ⟨r, s', ran, none, passed⟩ := exists_of_succeeds handled
  have plain : StaysPlain page [⟨.modified, p.text⟩] { s with files := s.files.put p e } :=
    fun t moment _ => of_decide_eq_true (moment.passes moments)
  exact ⟨s', .batch session ⟨lists_put proper below found changed, plain⟩ ran none, passed⟩

def indexPage : Path := ⟨["src", "views", "index.html"]⟩
def aboutPage : Path := ⟨["src", "views", "about.html"]⟩
def iconImage : Path := ⟨["src", "assets", "img", "icon.svg"]⟩
def logoImage : Path := ⟨["src", "assets", "img", "logo.svg"]⟩

/-- Two pages, each with an image of its own. -/
def twoPages : State :=
  productionSite [(["views"], .directory), (["assets"], .directory), (["assets", "img"], .directory),
    (["views", "about.html"], textFile "\x7b\x7b asset_path('icon.svg') \x7d\x7d"),
    (["views", "index.html"], textFile "\x7b\x7b asset_path('logo.svg') \x7d\x7d"),
    (["assets", "img", "icon.svg"], textFile "1"), (["assets", "img", "logo.svg"], textFile "2")]

/-- The first page becomes a link to the second, then both images change. -/
theorem edits_twoPages : succeeds (buildProject []) twoPages
    (edits aboutPage indexPage (.link "about.html") <| edits aboutPage logoImage (textFile "3") <|
      edits aboutPage iconImage (textFile "4") fun s =>
        s.production && s.layout == twoPages.layout && s.files.isFile indexPage &&
        s.dependencies.contains s.base aboutPage.text &&
        s.fileName "/assets/img/icon.svg" != aboutPage.text &&
        s.journal.last? aboutPage.text ==
          some (.page, [("/assets/img/icon.svg", "/assets/img/icon-a87ff679a2.svg")]) &&
        (s.staleNames .page indexPage.text).contains
          ("/assets/img/logo.svg", "/assets/img/logo-c81e728d9d.svg")) = true := by
  decide +kernel

theorem exists_session_twoPages : ∃ s, Session (ListsPlain aboutPage) s ∧ s.production = true ∧
    s.layout = twoPages.layout ∧ s.dependencies.contains s.base aboutPage.text = true ∧
    s.fileName "/assets/img/icon.svg" ≠ aboutPage.text ∧ s.files.isFile indexPage = true ∧
    s.journal.last? aboutPage.text =
      some (.page, [("/assets/img/icon.svg", "/assets/img/icon-a87ff679a2.svg")]) ∧
    IsStale s .page indexPage.text ("/assets/img/logo.svg", "/assets/img/logo-c81e728d9d.svg") := by
  obtain ⟨r, s, ran, none, passed⟩ := exists_of_succeeds edits_twoPages
  obtain ⟨s, session, passed⟩ := (Session.built ran none).edits (by decide) (by decide) passed
  obtain ⟨s, session, passed⟩ := session.edits (by decide) (by decide) passed
  obtain ⟨s, session, passed⟩ := session.edits (by decide) (by decide) passed
  simp only [Bool.and_eq_true, beq_iff_eq, bne_iff_ne] at passed
  obtain ⟨⟨⟨⟨⟨⟨production, layout⟩, file⟩, recorded⟩, other⟩, last⟩, stale⟩ := passed
  exact ⟨s, session, production, layout, recorded, other, file, last,
    mem_staleNames.1 (List.contains_iff_mem.1 stale)⟩

end Folio.Build
