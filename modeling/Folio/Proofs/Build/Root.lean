import Folio.Proofs.Build.Affected
import Folio.Proofs.Route

/-!
# The route of the root

A route table begins with the root at `/`, and only an entry with the same helper changes that. A
helper is made of the segments of a public path, joined by underscores and lowered. An underscore
is lowered to itself and ends the word before it, so two segments never give the helper of the root.
One segment does if it is `root` in lower case: such a page is a `Namesake`, and the root keeps its
route just when a page at `/` comes after each of them (`root_kept_iff`).
-/

namespace Folio

namespace Text

/-! ## Lowering around an underscore -/

theorem casedAhead_append_underscore (s t : List Char) :
    casedAhead (s ++ '_' :: t) = casedAhead s := by
  have plain : isCaseIgnorable '_' = false := by decide
  induction s with
  | nil =>
    have first : casedAhead ('_' :: t) = isCased '_' := by
      rw [casedAhead, List.dropWhile_cons_of_neg (by simp [plain])]
    exact first.trans (by decide)
  | cons c s ih =>
    unfold casedAhead at ih ⊢
    by_cases passed : isCaseIgnorable c = true
    · rw [List.cons_append, List.dropWhile_cons_of_pos passed, List.dropWhile_cons_of_pos passed]
      exact ih
    · rw [List.cons_append, List.dropWhile_cons_of_neg passed, List.dropWhile_cons_of_neg passed]

theorem lowerAfter_append_underscore (before s t : List Char) :
    lowerAfter before (s ++ '_' :: t) =
      lowerAfter before s ++ '_' :: lowerAfter ('_' :: (s.reverse ++ before)) t := by
  induction s generalizing before with
  | nil => rfl
  | cons c s ih =>
    rw [List.cons_append, lowerAfter, lowerAfter, casedAhead_append_underscore, ih,
      List.append_assoc, List.reverse_cons, List.append_assoc]
    rfl

end Text

open Text

/-! ## Namesakes of the root -/

namespace View

/-- The segments of a page's public path that its helper is made of. -/
def helperSegments (path : String) : List String :=
  directory path ++ if publicName (base path) = "" then [] else [publicName (base path)]

/-- Whether a page has one segment, which is `root` in lower case. -/
def Namesake (path : String) : Prop :=
  (helperSegments path).map lower = ["root"]

instance (path : String) : Decidable (Namesake path) :=
  inferInstanceAs (Decidable (_ = _))

variable {path : String}

theorem publicPath_eq_root_iff : publicPath path = "/" ↔ helperSegments path = [] := by
  have root : publicPath "index.html" = "/" ∧ directory "index.html" = [] ∧
      publicName (base "index.html") = "" := by decide +kernel
  rw [← root.1, publicPath_eq_iff, root.2.1, root.2.2, helperSegments, List.append_eq_nil_iff]
  refine and_congr_right fun _ => ?_
  split <;> simp_all

theorem Namesake.publicPath_ne (namesake : Namesake path) : publicPath path ≠ "/" := by
  intro root
  rw [Namesake, publicPath_eq_root_iff.1 root] at namesake
  exact absurd namesake (by simp)

theorem filter_splitOn_publicPath (path : String) :
    (splitOn '/' (publicPath path).toList).filter (· ≠ []) =
      (helperSegments path).map String.toList := by
  have kept : ((directory path).map String.toList).filter (· ≠ []) =
      (directory path).map String.toList := by
    refine List.filter_eq_self.2 fun piece member => ?_
    obtain ⟨segment, listed, rfl⟩ := List.mem_map.1 member
    simpa using (isSegment_of_mem_directory listed).1
  rw [splitOn_publicPath, List.filter_cons_of_neg (by simp), List.map_append, List.filter_append,
    kept, helperSegments, List.map_append]
  by_cases none : publicName (base path) = "" <;> simp [none]

end View

namespace Route

variable {path : String}

/-- The joined segments of a helper in lower case, in front of `_path`. -/
theorem helperName_publicPath (some : View.helperSegments path ≠ []) :
    (helperName (View.publicPath path)).toList =
      lowerAfter [] (joinWith '_' ((View.helperSegments path).map String.toList)) ++
        "_path".toList := by
  have pieces : (View.helperSegments path).map String.toList ≠ [] := by simpa using some
  simp only [helperName, View.filter_splitOn_publicPath, List.isEmpty_iff, if_neg pieces, lower,
    String.toList_ofList]
  rw [joinWith_concat pieces, lowerAfter_append_underscore]
  rfl

theorem helperName_eq_rootHelper_iff : helperName (View.publicPath path) = rootHelper ↔
    View.publicPath path = "/" ∨ View.Namesake path := by
  rw [View.publicPath_eq_root_iff, View.Namesake]
  by_cases none : View.helperSegments path = []
  · have root : helperName "/" = rootHelper := by decide
    simp [none, View.publicPath_eq_root_iff.2 none, root]
  have text : rootHelper.toList = "root".toList ++ "_path".toList := by decide
  rw [← String.toList_inj, helperName_publicPath none, text, List.append_left_inj]
  match segments : View.helperSegments path with
  | [] => exact absurd segments none
  | [segment] =>
    simp [joinWith, lower, ← String.toList_inj]
  | first :: second :: rest =>
    -- The underscore between two segments is kept, and `root` has none.
    have between : '_' ∈ lowerAfter [] (joinWith '_'
        ((first :: second :: rest).map String.toList)) := by
      rw [List.map_cons, List.map_cons, joinWith, lowerAfter_append_underscore]
      · simp
      · simp
    refine iff_of_false (fun same => ?_) (by simp)
    rw [same] at between
    exact absurd between (by decide)

/-! ## The root in a table -/

theorem lookup_tableOf_concat (entries : List Entry) (e : Entry) (helper : String) :
    (tableOf (entries ++ [e])).1.lookup helper =
      if e.helper = helper then some e.path else (tableOf entries).1.lookup helper := by
  rw [lookup_tableOf, lookup_tableOf, List.reverse_append, List.reverse_singleton,
    List.singleton_append, List.find?_cons]
  by_cases same : e.helper = helper <;> simp [same]

/-- Whether each page that is a namesake of the root has a page at `/` after it. -/
def RootKept (paths : List String) : Prop :=
  ∀ before path after, paths = before ++ path :: after → View.isPage path = true →
    View.Namesake path → ∃ other ∈ after, View.isPage other = true ∧ View.publicPath other = "/"

theorem rootKept_concat (paths : List String) (last : String) : RootKept (paths ++ [last]) ↔
    (View.isPage last = true ∧ View.publicPath last = "/") ∨
      (¬ (View.isPage last = true ∧ View.Namesake last) ∧ RootKept paths) := by
  constructor
  · intro kept
    by_cases root : View.isPage last = true ∧ View.publicPath last = "/"
    · exact Or.inl root
    refine Or.inr ⟨fun taken => ?_, fun before path after split page namesake => ?_⟩
    · obtain ⟨other, member, -⟩ := kept paths last [] rfl taken.1 taken.2
      exact absurd member List.not_mem_nil
    · obtain ⟨other, member, home⟩ := kept before path (after ++ [last]) (by simp [split]) page
        namesake
      rcases List.mem_append.1 member with earlier | final
      · exact ⟨other, earlier, home⟩
      · exact absurd (List.mem_singleton.1 final ▸ home) root
  · intro kept before path after split page namesake
    rcases List.eq_nil_or_concat after with none | ⟨front, final, more⟩
    · subst none
      obtain ⟨-, rfl⟩ := List.append_singleton_inj.1 split
      rcases kept with root | ⟨other, -⟩
      · exact absurd root.2 namesake.publicPath_ne
      · exact absurd ⟨page, namesake⟩ other
    · subst more
      rw [List.concat_eq_append] at split ⊢
      rw [← List.cons_append, ← List.append_assoc] at split
      obtain ⟨earlier, rfl⟩ := List.append_singleton_inj.1 split
      rcases kept with root | ⟨-, kept⟩
      · exact ⟨last, by simp, root⟩
      · obtain ⟨other, member, home⟩ := kept before path front earlier page namesake
        exact ⟨other, List.mem_append_left _ member, home⟩

/-- The entries of some templates, each a path with the name that messages have for it. -/
def entriesOf (templates : List (String × String)) : List Entry :=
  templates.filterMap fun t => entryFor t.1 t.2

theorem lookup_rootHelper_iff (templates : List (String × String)) :
    (tableOf (entriesOf templates)).1.lookup rootHelper = some "/" ↔
      RootKept (templates.map Prod.fst) := by
  induction templates using List.reverseRecOn with
  | nil => exact ⟨fun _ before path after split => by simp at split, fun _ => by decide⟩
  | append_singleton templates last ih =>
    rw [List.map_append, List.map_singleton, rootKept_concat, ← ih, entriesOf,
      List.filterMap_append]
    cases page : View.isPage last.1 with
    | false => simp [entryFor, page, entriesOf]
    | true =>
      have entry : [last].filterMap (fun t => entryFor t.1 t.2) =
          [⟨helperName (View.publicPath last.1), View.publicPath last.1,
            if last.2 = "" then last.1 else last.2⟩] := by
        simp [entryFor, page]
      rw [entry, lookup_tableOf_concat]
      simp only [helperName_eq_rootHelper_iff, true_and]
      by_cases root : View.publicPath last.1 = "/"
      · simp [root]
      by_cases namesake : View.Namesake last.1
      · simp [root, namesake]
      · simp [root, namesake, entriesOf]

end Route

/-! ## The root of a site -/

namespace Build

/-- The paths of the templates below the views, in order. -/
def State.templatePaths (s : State) : List String :=
  s.templates.filterMap fun p => (p.below? s.layout.views).map joinSegments

theorem routeEntries_eq_entriesOf (s : State) : ∃ templates : List (String × String),
    s.routeEntries = Route.entriesOf templates ∧ templates.map Prod.fst = s.templatePaths := by
  refine ⟨s.templates.filterMap fun p =>
    (p.below? s.layout.views).map fun segments => (joinSegments segments, p.text), ?_, ?_⟩
  · rw [State.routeEntries, Route.entriesOf, List.filterMap_filterMap]
    congr 1
    funext p
    cases p.below? s.layout.views <;> rfl
  · rw [State.templatePaths, List.map_filterMap]
    congr 1
    funext p
    cases p.below? s.layout.views <;> rfl

/-- The table of some templates, and that of a site, has the root at `/` just when a page at `/`
comes after each namesake of the root. -/
theorem root_kept_iff (templates : List (String × String)) (s : State) :
    ((Route.tableOf (templates.filterMap fun t => Route.entryFor t.1 t.2)).1.lookup
        Route.rootHelper = some "/" ↔ Route.RootKept (templates.map Prod.fst)) ∧
    ∃ changed t, rebuildRoutes s = .ok changed t ∧
      (t.routes.lookup Route.rootHelper = some "/" ↔ Route.RootKept s.templatePaths) := by
  refine ⟨Route.lookup_rootHelper_iff templates, ?_⟩
  obtain ⟨log, rebuilt⟩ := rebuildRoutes_eq s
  obtain ⟨listed, entries, paths⟩ := routeEntries_eq_entriesOf s
  refine ⟨_, _, rebuilt, ?_⟩
  rw [← paths, ← Route.lookup_rootHelper_iff, ← entries]

/-- The page of `root.html` takes the helper of the root, and no note tells of it. -/
theorem root_kept_fails :
    Route.tableOf (["root.html"].filterMap fun path => Route.entryFor path "") =
      ([("root_path", "/root")], []) ∧ Route.rootHelper = "root_path" := by
  decide +kernel

end Build

end Folio
