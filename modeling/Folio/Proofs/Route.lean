import Folio.Proofs.Layout

/-!
# Public paths and page files

The public path and the page file of a template both come from its directory and from its name
without a template extension, its base. A page file tells bases apart unless one of them is the other
with `.html`; a public path takes an index for the directory itself. So two templates that share a
page file share a public path and a helper, and the table's notes tell of it, unless they are
`Parted`.
-/

namespace Folio

open Text

namespace Asset

theorem endsWith_lower_append (s : String) {suffix : String}
    (fixed : suffix.toList.all (fun c => c != 'Σ' && c != 'İ' && lowered c == c) = true) :
    endsWith (lower (s ++ suffix)) suffix = true := by
  obtain ⟨image, last⟩ := lowerAfter_append [] s.toList fixed
  rw [endsWith, lower, String.toList_append, last, String.toList_ofList]
  exact List.isSuffixOf_iff_suffix.2 (List.suffix_append ..)

end Asset

/-! ## Directory and base -/

namespace View

theorem mem_of_mem_baseName {name : String} {c : Char} (member : c ∈ (baseName name).toList) :
    c ∈ name.toList := by
  unfold baseName at member
  split at member
  · rw [String.toList_ofList] at member
    exact List.mem_of_mem_take member
  · exact member

def directory (path : String) : List String :=
  (pathSegments path).dropLast

def base (path : String) : String :=
  baseName ((pathSegments path).getLast?.getD "")

/-- The last segment of the public path of a page; that of an index is empty. -/
def publicName (base : String) : String :=
  if base = "index" then "" else base

/-- The file of a page with some base. -/
def fileName (base : String) : String :=
  if Asset.endsWith (lower base) ".html" then base else base ++ ".html"

variable {path : String}

theorem isSegment_of_mem_directory {segment : String} (member : segment ∈ directory path) :
    IsSegment segment :=
  isSegment_of_mem (List.dropLast_subset _ member)

theorem not_mem_base (path : String) : '/' ∉ (base path).toList := by
  intro member
  have named := mem_of_mem_baseName member
  cases last : (pathSegments path).getLast? with
  | none => simp [last] at named
  | some name =>
    rw [last] at named
    exact (isSegment_of_mem (List.mem_of_getLast? last)).2.2 named

theorem not_mem_publicName (path : String) : '/' ∉ (publicName (base path)).toList := by
  unfold publicName
  split
  · simp
  · exact not_mem_base path

theorem root_trimStart (path : String) :
    PathRoot.ofText (trimStart (· == '/') path.toList) = .relative := by
  unfold PathRoot.ofText
  have first := List.head?_dropWhile_not (· == '/') path.toList
  unfold trimStart
  split <;> simp_all

theorem publicPath_eq (path : String) :
    publicPath path = ((Path.mk (directory path)).child (publicName (base path))).text := by
  have segments := pathSegments_trimStart path
  have root := root_trimStart path
  unfold publicPath Written.ofText
  rw [String.toList_ofList, root, segments]
  change (if Written.text ⟨.relative, directory path⟩ = "." then "" else
    "/" ++ Written.text ⟨.relative, directory path⟩) ++ "/" ++ publicName (base path) = _
  rcases List.eq_nil_or_concat (directory path) with none | ⟨front, last, some⟩
  · rw [none]
    simp [Written.text, Path.child, Path.text, joinSegments, joinWith]
  · have some : directory path ≠ [] := by simp [some]
    have pieces : (directory path).map String.toList ≠ [] := by simpa using some
    have text : Written.text ⟨.relative, directory path⟩ = joinSegments (directory path) := by
      simp [Written.text, some, PathRoot.text]
    have other : joinSegments (directory path) ≠ "." := by
      intro dot
      have back := pathSegments_slash (directory path) fun _ => isSegment_of_mem_directory
      rw [dot] at back
      exact some back.symm
    rw [text, if_neg other]
    apply String.toList_inj.1
    simp [Path.child, Path.text, joinSegments, joinWith_concat pieces]

theorem publicPath_of_index (index : base path = "index") :
    ∃ front, (publicPath path).toList = front ++ ['/'] := by
  rw [publicPath_eq, index]
  rcases List.eq_nil_or_concat (directory path) with none | ⟨front, last, some⟩
  · rw [none]
    exact ⟨[], rfl⟩
  · have pieces : (directory path).map String.toList ≠ [] := by simp [some]
    refine ⟨'/' :: joinWith '/' ((directory path).map String.toList), ?_⟩
    simp [publicName, Path.child, Path.text, joinSegments, joinWith_concat pieces]

theorem splitOn_publicPath (path : String) : splitOn '/' (publicPath path).toList =
    [] :: (directory path ++ [publicName (base path)]).map String.toList := by
  have text : (publicPath path).toList = [] ++ '/' ::
      joinWith '/' ((directory path ++ [publicName (base path)]).map String.toList) := by
    rw [publicPath_eq]
    simp [Path.child, Path.text, joinSegments]
  rw [text, splitOn_append List.not_mem_nil, splitOn_joinWith (by simp)]
  intro piece member
  obtain ⟨segment, listed, rfl⟩ := List.mem_map.1 member
  rcases List.mem_append.1 listed with inside | last
  · exact (isSegment_of_mem_directory inside).2.2
  · rw [List.mem_singleton.1 last]
    exact not_mem_publicName path

/-- The segments that the public path of a template has: an index has those of its directory. -/
def publicSegments (path : String) : List String :=
  directory path ++ if base path = "index" then [] else [base path]

/-- A public path asks for its segments unless the base of its template is none. -/
theorem pathSegments_publicPath (named : base path ≠ "" ∧ base path ≠ ".") :
    pathSegments (publicPath path) = publicSegments path := by
  have kept : (directory path).filter (fun s => s ≠ "" && s ≠ ".") = directory path :=
    List.filter_eq_self.2 fun s member => by
      simpa using ⟨(isSegment_of_mem_directory member).1, (isSegment_of_mem_directory member).2.1⟩
  have back : String.ofList ∘ String.toList = id := funext fun _ => String.ofList_toList
  rw [pathSegments, splitOn_publicPath, List.map_cons, List.map_map, back, List.map_id]
  rw [List.filter_cons_of_neg (by simp), List.filter_append, kept, publicSegments, publicName]
  split
  · rfl
  · simp [named]

/-! ## When they are the same -/

variable {p q a b : String}

theorem publicPath_eq_iff : publicPath p = publicPath q ↔
    directory p = directory q ∧ publicName (base p) = publicName (base q) := by
  constructor
  · intro same
    have split := splitOn_publicPath p
    rw [same, splitOn_publicPath q] at split
    have names := (List.map_inj_right fun _ _ => String.toList_inj.1).1
      ((List.cons_inj_right _).1 split)
    obtain ⟨directories, names⟩ := List.append_singleton_inj.1 names
    exact ⟨directories.symm, names.symm⟩
  · rintro ⟨directories, names⟩
    rw [publicPath_eq, publicPath_eq, directories, names]

theorem pageFile_eq (l : Layout) (path : String) : l.pageFile (pathSegments path) =
    (l.output.append (directory path)).child (fileName (base path)) :=
  rfl

theorem pageFile_eq_iff (l : Layout) : l.pageFile (pathSegments p) = l.pageFile (pathSegments q) ↔
    directory p = directory q ∧ fileName (base p) = fileName (base q) := by
  rw [pageFile_eq, pageFile_eq]
  constructor
  · intro same
    obtain ⟨directories, names⟩ := List.append_singleton_inj.1 (congrArg Path.segments same)
    exact ⟨List.append_cancel_left directories, names⟩
  · rintro ⟨directories, names⟩
    rw [directories, names]

/-- Whether one base stands for the directory as its index and the other for nothing. -/
def IndexOf (a b : String) : Prop :=
  a = "" ∧ b = "index"

/-- Whether a base is another with the `.html` that its page file is given. -/
def Suffixed (a b : String) : Prop :=
  Asset.endsWith (lower a) ".html" = false ∧ b = a ++ ".html"

instance (a b : String) : Decidable (IndexOf a b) :=
  inferInstanceAs (Decidable (_ ∧ _))

instance (a b : String) : Decidable (Suffixed a b) :=
  inferInstanceAs (Decidable (_ ∧ _))

theorem publicName_eq_iff : publicName a = publicName b ↔ a = b ∨ IndexOf a b ∨ IndexOf b a := by
  unfold publicName IndexOf
  constructor
  · intro same
    split at same <;> split at same <;> simp_all
  · rintro (rfl | ⟨rfl, rfl⟩ | ⟨rfl, rfl⟩) <;> simp

theorem fileName_eq_iff : fileName a = fileName b ↔ a = b ∨ Suffixed a b ∨ Suffixed b a := by
  have html (s : String) : Asset.endsWith (lower (s ++ ".html")) ".html" = true :=
    Asset.endsWith_lower_append s (by decide)
  unfold fileName Suffixed
  constructor
  · intro same
    split at same <;> split at same <;> simp_all
  · rintro (rfl | ⟨bare, rfl⟩ | ⟨bare, rfl⟩)
    · rfl
    · rw [if_neg (by simp [bare]), if_pos (html a)]
    · rw [if_pos (html b), if_neg (by simp [bare])]

/-- Whether just one of the public path and the page file tells two templates apart: in one
directory, a page with an empty base beside an index, or two bases of which one is the other with
`.html`. -/
def Parted (p q : String) : Prop :=
  directory p = directory q ∧
    (IndexOf (base p) (base q) ∨ IndexOf (base q) (base p) ∨
      Suffixed (base p) (base q) ∨ Suffixed (base q) (base p))

instance (p q : String) : Decidable (Parted p q) :=
  inferInstanceAs (Decidable (_ ∧ (_ ∨ _ ∨ _ ∨ _)))

theorem not_suffixed_self (a : String) : ¬ Suffixed a a := by
  rintro ⟨-, same⟩
  have lengths := congrArg String.length same
  simp at lengths

theorem IndexOf.fileName_ne (index : IndexOf a b) : fileName a ≠ fileName b := by
  obtain ⟨rfl, rfl⟩ := index
  decide +kernel

theorem Suffixed.publicName_ne (suffixed : Suffixed a b) : publicName a ≠ publicName b := by
  have other : b ≠ "" ∧ b ≠ "index" := by
    obtain ⟨-, rfl⟩ := suffixed
    constructor
    · intro same
      have lengths := congrArg String.length same
      simp at lengths
    · intro same
      have lasts := congrArg (fun s : String => s.toList.getLast?) same
      simp at lasts
  intro same
  rcases publicName_eq_iff.1 same with rfl | ⟨-, index⟩ | ⟨none, -⟩
  · exact not_suffixed_self _ suffixed
  · exact other.2 index
  · exact other.1 none

theorem publicName_iff_fileName (a b : String) :
    (publicName a = publicName b ↔ fileName a = fileName b) ↔
      ¬ (IndexOf a b ∨ IndexOf b a ∨ Suffixed a b ∨ Suffixed b a) := by
  constructor
  · rintro agree (index | index | suffixed | suffixed)
    · exact index.fileName_ne (agree.1 (publicName_eq_iff.2 (Or.inr (Or.inl index))))
    · exact index.fileName_ne (agree.1 (publicName_eq_iff.2 (Or.inr (Or.inr index)))).symm
    · exact suffixed.publicName_ne (agree.2 (fileName_eq_iff.2 (Or.inr (Or.inl suffixed))))
    · exact suffixed.publicName_ne (agree.2 (fileName_eq_iff.2 (Or.inr (Or.inr suffixed)))).symm
  · intro alike
    simp only [not_or] at alike
    obtain ⟨index, index', suffixed, suffixed'⟩ := alike
    simp only [publicName_eq_iff, fileName_eq_iff, index, index', suffixed, suffixed']

theorem publicPath_iff_pageFile (l : Layout) (p q : String) :
    (publicPath p = publicPath q ↔ l.pageFile (pathSegments p) = l.pageFile (pathSegments q)) ↔
      ¬ Parted p q := by
  rw [publicPath_eq_iff, pageFile_eq_iff, and_congr_right_iff, Parted, not_and]
  exact forall_congr' fun _ => publicName_iff_fileName _ _

end View

/-! ## Helpers of a table -/

namespace Route

theorem entryFor_helper {path source : String} {e : Entry} (entry : entryFor path source = some e) :
    e.helper = helperName (View.publicPath path) := by
  simp only [entryFor, Option.ite_none_right_eq_some, Option.some.injEq] at entry
  rw [← entry.2]

theorem endsWith_helperName (path : String) :
    Asset.endsWith (helperName path) "_path" = true := by
  unfold helperName
  dsimp only
  split
  · decide
  · next some =>
    have some : (splitOn '/' path.toList).filter (· ≠ []) ≠ [] := by simpa using some
    have text : String.ofList
        (joinWith '_' ((splitOn '/' path.toList).filter (· ≠ []) ++ ["path".toList])) =
        String.ofList (joinWith '_' ((splitOn '/' path.toList).filter (· ≠ []))) ++ "_path" := by
      rw [joinWith_concat some]
      exact String.ofList_append
    rw [text]
    exact Asset.endsWith_lower_append _ (by decide)

theorem table_foldl_add (entries : List Entry) (d : Draft) :
    (entries.foldl Draft.add d).table =
      entries.foldl (fun t e => Table.put e.helper e.path t) d.table := by
  induction entries generalizing d with
  | nil => rfl
  | cons e rest ih => exact ih (d.add e)

theorem nodup_keys_tableOf (entries : List Entry) : (Table.keys (tableOf entries).1).Nodup := by
  rw [tableOf, table_foldl_add]
  exact Table.nodup_keys_foldl_put _ _ _ (by decide)

theorem lookup_tableOf (entries : List Entry) (helper : String) :
    (tableOf entries).1.lookup helper =
      ((entries.reverse.find? (·.helper = helper)).map Entry.path).or
        (Draft.empty.table.lookup helper) := by
  rw [tableOf, table_foldl_add]
  exact Table.lookup_foldl_put _ _ _ _ _

theorem mem_helpers {entries : List Entry} {helper path : String}
    (found : (tableOf entries).1.lookup helper = some path) :
    helper = rootHelper ∨ ∃ e ∈ entries, e.helper = helper := by
  rw [lookup_tableOf] at found
  cases last : entries.reverse.find? (·.helper = helper) with
  | some e =>
    exact Or.inr ⟨e, List.mem_reverse.1 (List.mem_of_find?_eq_some last),
      by simpa using List.find?_some last⟩
  | none =>
    rw [last] at found
    refine Or.inl (Classical.byContradiction fun other => ?_)
    have missing : Draft.empty.table.lookup helper = none := by
      simp [Draft.empty, List.lookup_cons, beq_eq_false_iff_ne.2 other]
    simp [missing] at found

theorem endsWith_of_lookup {entries : List Entry} {helper path : String}
    (entered : ∀ e ∈ entries, ∃ path source, entryFor path source = some e)
    (found : (tableOf entries).1.lookup helper = some path) :
    Asset.endsWith helper "_path" = true := by
  rcases mem_helpers found with rfl | ⟨e, member, rfl⟩
  · decide
  · obtain ⟨path, source, entry⟩ := entered e member
    rw [entryFor_helper entry]
    exact endsWith_helperName _

/-! ## Notes on overrides -/

theorem sources_foldl_add (entries : List Entry) (d : Draft) :
    (entries.foldl Draft.add d).sources =
      entries.foldl (fun t e => Table.put e.helper e.source t) d.sources := by
  induction entries generalizing d with
  | nil => rfl
  | cons e rest ih => exact ih (d.add e)

theorem mem_notes {note : String} (entries : List Entry) {d : Draft} (noted : note ∈ d.notes) :
    note ∈ (entries.foldl Draft.add d).notes := by
  induction entries generalizing d with
  | nil => exact noted
  | cons e rest ih => exact ih (List.mem_append_right _ noted)

/-- An entry whose helper an earlier one has is noted with the source of the last such entry. -/
theorem override_noted (before between after : List Entry) {e e' : Entry}
    (same : e.helper = e'.helper) : ∃ d ∈ e :: between, d.helper = e'.helper ∧
      Draft.overrideNote e' d.source ∈
        (tableOf (before ++ e :: (between ++ e' :: after))).2 := by
  have shared : ∃ d, (e :: between).reverse.find? (·.helper = e'.helper) = some d := by
    rw [← Option.isSome_iff_exists, List.find?_isSome]
    exact ⟨e, by simp, by simpa using same⟩
  obtain ⟨d, found⟩ := shared
  refine ⟨d, List.mem_reverse.1 (List.mem_of_find?_eq_some found),
    by simpa using List.find?_some found, ?_⟩
  have earlier := Table.lookup_foldl_put Entry.helper Entry.source (e :: between)
    (before.foldl Draft.add .empty).sources e'.helper
  rw [found, ← sources_foldl_add] at earlier
  have whole : before ++ e :: (between ++ e' :: after) =
      before ++ ((e :: between) ++ e' :: after) := rfl
  rw [tableOf, whole, List.foldl_append, List.foldl_append, List.foldl_cons]
  refine List.mem_reverse.2 (mem_notes after (List.mem_append_left _ ?_))
  rw [earlier]
  simp

/-- Public paths and page files collide together, and the notes tell of it, unless the templates are
parted. -/
theorem collides_together (l : Layout) (p q : String) :
    ((View.publicPath p = View.publicPath q ↔
      l.pageFile (pathSegments p) = l.pageFile (pathSegments q)) ↔ ¬ View.Parted p q) ∧
    ∀ (source source' : String) (e e' : Entry) (before between after : List Entry),
      entryFor p source = some e → entryFor q source' = some e' →
      l.pageFile (pathSegments p) = l.pageFile (pathSegments q) → ¬ View.Parted p q →
      e.helper = e'.helper ∧ ∃ d ∈ e :: between, d.helper = e'.helper ∧
        Draft.overrideNote e' d.source ∈
          (tableOf (before ++ e :: (between ++ e' :: after))).2 := by
  have agree := View.publicPath_iff_pageFile l p q
  refine ⟨agree, fun source source' e e' before between after one two pages together => ?_⟩
  have paths := (agree.2 together).2 pages
  have helpers : e.helper = e'.helper := by
    rw [entryFor_helper one, entryFor_helper two, paths]
  exact ⟨helpers, override_noted before between after helpers⟩

/-- Of `about.html` and `about.jinja` the second takes over the page and the helper. -/
theorem collides_together_of_about :
    ∃ e e', entryFor "about.html" "" = some e ∧ entryFor "about.jinja" "" = some e' ∧
      View.publicPath "about.html" = View.publicPath "about.jinja" ∧ e.helper = e'.helper ∧
      ∃ d ∈ [e], Draft.overrideNote e' d.source ∈ (tableOf [e, e']).2 := by
  let l : Layout := ⟨.root, .root⟩
  obtain ⟨agree, noted⟩ := collides_together l "about.html" "about.jinja"
  have alike : ¬ View.Parted "about.html" "about.jinja" := by decide +kernel
  have pages : l.pageFile (pathSegments "about.html") = l.pageFile (pathSegments "about.jinja") := by
    decide +kernel
  have one : entryFor "about.html" "" = some ⟨"about_path", "/about", "about.html"⟩ := by
    decide +kernel
  have two : entryFor "about.jinja" "" = some ⟨"about_path", "/about", "about.jinja"⟩ := by
    decide +kernel
  obtain ⟨helpers, d, member, -, note⟩ := noted "" "" _ _ [] [] [] one two pages alike
  exact ⟨_, _, one, two, (agree.2 alike).2 pages, helpers, d, member, note⟩

/-- The page of `about.html` is lost to that of `about.html.jinja`, and no note tells of it: only a
page file is given `.html`. Of `.html` and `index.html` only the public path is shared. -/
theorem collides_together_fails :
    View.isPage "about.html" = true ∧ View.isPage "about.html.jinja" = true ∧
    (∀ l : Layout, l.pageFile (pathSegments "about.html") =
      l.pageFile (pathSegments "about.html.jinja")) ∧
    View.publicPath "about.html" = "/about" ∧
    View.publicPath "about.html.jinja" = "/about.html" ∧
    tableOf ((entryFor "about.html" "").toList ++ (entryFor "about.html.jinja" "").toList) =
      ([("root_path", "/"), ("about_path", "/about"), ("about.html_path", "/about.html")], []) ∧
    View.isPage ".html" = true ∧ View.isPage "index.html" = true ∧
    View.publicPath ".html" = View.publicPath "index.html" ∧
    ∀ l : Layout, l.pageFile (pathSegments ".html") ≠ l.pageFile (pathSegments "index.html") := by
  have together : View.directory "about.html" = View.directory "about.html.jinja" ∧
      View.fileName (View.base "about.html") = View.fileName (View.base "about.html.jinja") := by
    decide +kernel
  have parted : View.IndexOf (View.base ".html") (View.base "index.html") := by decide +kernel
  refine ⟨by decide +kernel, by decide +kernel, fun l => (View.pageFile_eq_iff l).2 together,
    by decide +kernel, by decide +kernel, by decide +kernel, by decide +kernel, by decide +kernel,
    by decide +kernel, fun l same => ?_⟩
  exact parted.fileName_ne ((View.pageFile_eq_iff l).1 same).2

end Route

end Folio
