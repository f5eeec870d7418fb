import Folio.Preview
import Folio.Proofs.FileTree.Unusable
import Folio.Proofs.Route

/-!
# Pages in the preview

A request for the public path of a template is answered with its page file where no link lies and
nothing else is preferred to it (`respond_page`).
-/

namespace Folio.Preview

open FileTree Text

variable {files : FileTree} {root : Path} {segments page : List String} {path name : String}

/-! ## Finding files -/

theorem requested_eq (straight : ".." ∉ pathSegments path) : requested path = pathSegments path := by
  have folded (segments done : List String) (straight : ".." ∉ segments) :
      segments.foldl (fun done segment =>
        if segment = ".." ∧ done.getLast?.any (· ≠ "..") then done.dropLast else done ++ [segment])
        done = done ++ segments := by
    induction segments generalizing done with
    | nil => simp
    | cons segment segments ih =>
      obtain ⟨other, straight⟩ := not_or.1 (mt List.mem_cons.2 straight)
      rw [List.foldl_cons, if_neg fun back => other back.1.symm, ih _ straight]
      simp
  exact folded _ [] straight

/-- Whether the first of some segments starts with a backslash. -/
def isBackslashed (segments : List String) : Bool :=
  segments.head?.any (['\\'].isPrefixOf ·.toList)

theorem find_eq {q : Path} (proper : (root.append segments).IsProper)
    (plain : isBackslashed segments = false)
    (reached : files.locateTarget (root.append segments) = .ok q) :
    find files root segments = .ok (files.get? q) := by
  have place : placeOf root segments = some (root.append segments) := by
    have same : Path.collapse (root.segments ++ segments) = root.segments ++ segments :=
      Path.collapse_eq_self proper.straight
    unfold placeOf
    rw [same]
    exact if_pos (Path.isBelow_append root segments)
  unfold find
  rw [if_neg (by rw [← isBackslashed, plain]; exact Bool.false_ne_true), place]
  dsimp only
  rw [reached]

theorem find_of_target? {e : Entry} (proper : (root.append segments).IsProper)
    (plain : isBackslashed segments = false)
    (named : files.target? (root.append segments) = some e) :
    find files root segments = .ok (some e) := by
  unfold target? at named
  split at named
  · next q reached => rw [find_eq proper plain reached, named]
  · cases named

theorem contentOf_eq_some {e : Option Entry} {content : Bytes} :
    contentOf e = some content ↔ e = some (.file content) := by
  unfold contentOf
  split <;> simp_all

/-! ## What is preferred -/

/-- The page file that is looked for before what some segments name; none if the last of them has an
extension. -/
def preferredPage? (segments : List String) : Option (List String) :=
  if segments = [] ∨ (Asset.splitSuffix (segments.getLast?.getD "").toList).2 ≠ [] then none
  else some (pageSegments segments)

theorem preferred_of_none (none : preferredPage? segments = none) :
    preferred files root segments = .ok segments := by
  unfold preferredPage? at none
  split at none
  · next extended => exact if_pos extended
  · cases none

theorem preferred_of_page {e : Option Entry} (some : preferredPage? segments = some page)
    (found : find files root page = .ok e) :
    preferred files root segments = .ok (if (contentOf e).isSome then page else segments) := by
  unfold preferredPage? at some
  split at some
  · cases some
  · next plain =>
    obtain rfl := Option.some.inj some
    refine (if_neg plain).trans ?_
    rw [found]
    rfl

/-! ## Pages -/

/-- The segments of a page file below the output. -/
def ownSegments (name : String) : List String :=
  View.directory name ++ [View.fileName (View.base name)]

/-- Whether a request for the public path of a template comes to the page of the template where some
segments are those of page files. The path has to be one that the preview takes for the segments of
the template, a base with an extension has to be the name of the page, and the page file that is
looked for first is that of the template or none. -/
structure Routed (taken : List String → Prop) (name : String) : Prop where
  served : isServed (View.publicPath name).toList = true
  named : View.base name ∉ ["", ".", ".."]
  plain : isBackslashed (View.publicSegments name) = false
  extension : (Asset.splitSuffix (View.base name).toList).2 = [] ∨
    Asset.endsWith (lower (View.base name)) ".html" = true
  alone : ∀ page, preferredPage? (View.publicSegments name) = some page → page ≠ ownSegments name →
    isTooLong (page.getLast?.getD "") = false ∧ ¬ taken page

instance (taken : List String → Prop) [∀ page, Decidable (taken page)] (name : String) :
    Decidable (Routed taken name) :=
  decidable_of_iff (isServed (View.publicPath name).toList = true ∧
      View.base name ∉ ["", ".", ".."] ∧ isBackslashed (View.publicSegments name) = false ∧
      ((Asset.splitSuffix (View.base name).toList).2 = [] ∨
        Asset.endsWith (lower (View.base name)) ".html" = true) ∧
      ∀ page ∈ preferredPage? (View.publicSegments name), page ≠ ownSegments name →
        isTooLong (page.getLast?.getD "") = false ∧ ¬ taken page)
    ⟨fun ⟨served, named, plain, extension, alone⟩ => ⟨served, named, plain, extension, alone⟩,
      fun ⟨served, named, plain, extension, alone⟩ => ⟨served, named, plain, extension, alone⟩⟩

def IsFileBelow (files : FileTree) (root : Path) (segments : List String) : Prop :=
  ∃ content, files.get? (root.append segments) = some (.file content)

theorem Routed.mono {taken taken' : List String → Prop} (routed : Routed taken name)
    (fewer : ∀ page, taken' page → taken page) : Routed taken' name :=
  { routed with alone := fun page some other =>
      (routed.alone page some other).imp_right fun free held => free (fewer page held) }

theorem fileName_index : View.fileName "index" = "index.html" := by
  decide +kernel

theorem preferredPage?_concat {front : List String} {last : String}
    (some : preferredPage? (front ++ [last]) = some page) : page = front ++ [last ++ ".html"] := by
  unfold preferredPage? at some
  split at some
  · cases some
  · cases some
    simp [pageSegments]

theorem isBackslashed_extended (front : List String) {last : String} (some : last ≠ "") :
    isBackslashed (front ++ [last ++ ".html"]) = isBackslashed (front ++ [last]) := by
  cases front with
  | cons first front => rfl
  | nil =>
    cases spelled : last.toList with
    | nil => exact absurd (String.toList_eq_nil_iff.1 spelled) some
    | cons c r => simp [isBackslashed, spelled, List.isPrefixOf]

theorem Routed.isBackslashed_own {taken : List String → Prop} (routed : Routed taken name) :
    isBackslashed (ownSegments name) = false := by
  have plain := routed.plain
  unfold View.publicSegments at plain
  unfold ownSegments
  cases above : View.directory name with
  | cons first rest =>
    have head (more : List String) : isBackslashed (first :: rest ++ more) = isBackslashed [first] :=
      rfl
    rw [above, head] at plain
    rwa [head]
  | nil =>
    rw [above] at plain
    by_cases index : View.base name = "index"
    · rw [index, fileName_index]
      decide
    · rw [if_neg index] at plain
      have some : View.base name ≠ "" := fun none => routed.named (none ▸ by simp)
      unfold View.fileName
      split
      · exact plain
      · exact (isBackslashed_extended [] some).trans plain

section

variable {content : Bytes}

variable (proper : (root.append (ownSegments name)).IsProper)
  (linkless : ∀ p, p.isBelow root = true → files.Linkless p)
  (own : files.target? (root.append (ownSegments name)) = some (.file content))

include proper linkless own

/-- What leads to a page from the output on is a directory. -/
theorem directory_above_own {front : List String} (above : front <+: View.directory name) :
    (root.append front).IsProper ∧
      files.locateTarget (root.append front) = .ok (root.append front) ∧
      files.get? (root.append front) = some .directory := by
  obtain ⟨rest, whole⟩ := above
  have split : root.append (ownSegments name) =
      (root.append front).append (rest ++ [View.fileName (View.base name)]) := by
    rw [Path.append_append, ownSegments, ← whole, List.append_assoc]
  have below : (root.append (ownSegments name)).isBelow (root.append front) = true :=
    split ▸ Path.isBelow_append ..
  have other : root.append (ownSegments name) ≠ root.append front :=
    split ▸ Path.append_ne_self _ (by simp)
  exact ⟨proper.above below,
    directory_above proper (linkless _ (Path.isBelow_append ..)) own below other.symm⟩

/-- A file beside a page, or beside a directory above it, is found where it lies, and so it is found
that none lies there. -/
theorem find_beside {front : List String} {last : String}
    (above : front <+: View.directory name) (slash : '/' ∉ last.toList)
    (usable : '\x00' ∉ last.toList) (short : isTooLong (last ++ ".html") = false)
    (plain : isBackslashed (front ++ [last ++ ".html"]) = false) :
    find files root (front ++ [last ++ ".html"]) =
      .ok (files.get? (root.append (front ++ [last ++ ".html"]))) := by
  obtain ⟨proper', found, directory⟩ := directory_above_own proper linkless own above
  have long {s : String} (few : s.toList.length < 5) : last ++ ".html" ≠ s := by
    rintro rfl
    have five : ".html".toList.length = 5 := rfl
    rw [String.toList_append, List.length_append, five] at few
    omega
  have segment : IsSegment (last ++ ".html") ∧ last ++ ".html" ≠ ".." :=
    ⟨⟨long (by decide), long (by decide), by simpa using slash⟩, long (by decide)⟩
  have proper' := proper'.child segment
  have place : (root.append front).child (last ++ ".html") =
      root.append (front ++ [last ++ ".html"]) := Path.append_append ..
  have reached := locateTarget_child proper' (linkless _ (place ▸ Path.isBelow_append ..)) found
    directory short (by simpa using usable)
  rw [place] at proper' reached
  exact find_eq proper' plain reached

omit linkless

variable (routed : Routed (IsFileBelow files root) name)

include routed

theorem find_own : find files root (ownSegments name) = .ok (some (.file content)) :=
  find_of_target? proper routed.isBackslashed_own own

theorem answer_own (path : List Char) :
    answer files root "GET" path (ownSegments name) = .ok ⟨200, content, none⟩ := by
  unfold answer
  rw [find_own proper own routed]
  rfl

include linkless

theorem answer_index (index : View.base name = "index") :
    answer files root "GET" (View.publicPath name).toList (View.directory name) =
      .ok ⟨200, content, none⟩ := by
  have whole : ownSegments name = View.directory name ++ ["index.html"] := by
    rw [ownSegments, index, fileName_index]
  obtain ⟨proper', found, directory⟩ := directory_above_own proper linkless own (List.prefix_refl _)
  have plain : isBackslashed (View.directory name) = false := by
    have plain := routed.plain
    rwa [View.publicSegments, if_pos index, List.append_nil] at plain
  have slash : ['/'].isSuffixOf (View.publicPath name).toList = true := by
    obtain ⟨front, text⟩ := View.publicPath_of_index index
    rw [text]
    exact List.isSuffixOf_iff_suffix.2 (List.suffix_append ..)
  have page := find_own proper own routed
  rw [whole] at page
  unfold answer
  rw [find_eq proper' plain found, directory]
  dsimp only
  rw [page]
  exact congrArg Except.ok (if_pos slash)

omit proper linkless

/-- The last of the requested segments is a name in a directory above the page. -/
theorem exists_last (some : View.publicSegments name ≠ []) :
    ∃ front last, View.publicSegments name = front ++ [last] ∧ front <+: View.directory name ∧
      last ≠ "" ∧ '/' ∉ last.toList ∧ '\x00' ∉ last.toList := by
  have usable {segment : String} (member : segment ∈ ownSegments name) :
      '\x00' ∉ segment.toList := by
    intro null
    have held : holdsNull (root.append (ownSegments name)) = true :=
      List.any_eq_true.2 ⟨segment, List.mem_append_right _ member, List.contains_iff_mem.2 null⟩
    exact absurd ((holdsNull_of_target? own).symm.trans held) Bool.false_ne_true
  by_cases index : View.base name = "index"
  · have whole : View.publicSegments name = View.directory name := by
      rw [View.publicSegments, if_pos index, List.append_nil]
    rcases List.eq_nil_or_concat (View.directory name) with none | ⟨front, last, split⟩
    · exact absurd (whole.trans none) some
    · rw [List.concat_eq_append] at split
      have member : last ∈ View.directory name := by simp [split]
      have segment := View.isSegment_of_mem_directory member
      exact ⟨front, last, whole.trans split, split ▸ List.prefix_append .., segment.1, segment.2.2,
        usable (List.mem_append_left _ member)⟩
  · refine ⟨View.directory name, View.base name, ?_, List.prefix_refl _,
      fun none => routed.named (none ▸ by simp), View.not_mem_base name, fun null => ?_⟩
    · rw [View.publicSegments, if_neg index]
    · refine usable (List.mem_append_right _ (List.mem_singleton_self _)) ?_
      unfold View.fileName
      split
      · exact null
      · rw [String.toList_append]
        exact List.mem_append_left _ null

include proper linkless

/-- Where the page file that is preferred is another than that of the template, there is none. -/
theorem preferred_of_ne (some : preferredPage? (View.publicSegments name) = some page)
    (other : page ≠ ownSegments name) :
    preferred files root (View.publicSegments name) = .ok (View.publicSegments name) := by
  have more : View.publicSegments name ≠ [] := by
    intro none
    rw [none] at some
    cases some
  obtain ⟨front, last, whole, above, named, slash, usable⟩ := exists_last own routed more
  obtain ⟨short, free⟩ := routed.alone page some other
  have plain := routed.plain
  rw [whole] at some plain
  obtain rfl := preferredPage?_concat some
  have found := find_beside proper linkless own above slash usable (by simpa using short)
    ((isBackslashed_extended front named).trans plain)
  rw [whole, preferred_of_page some found]
  refine congrArg Except.ok (if_neg fun held => free ?_)
  obtain ⟨content, there⟩ := Option.isSome_iff_exists.1 held
  exact ⟨content, contentOf_eq_some.1 there⟩

/-- What is preferred to the segments of a template is answered with its page. -/
theorem answer_preferred : ∃ segments,
    preferred files root (View.publicSegments name) = .ok segments ∧
      answer files root "GET" (View.publicPath name).toList segments = .ok ⟨200, content, none⟩ := by
  have ends (other : View.base name ≠ "index")
      (html : Asset.endsWith (lower (View.base name)) ".html" = true) :
      View.publicSegments name = ownSegments name := by
    rw [View.publicSegments, ownSegments, if_neg other, View.fileName, if_pos html]
  cases wanted : preferredPage? (View.publicSegments name) with
  | none =>
    refine ⟨_, preferred_of_none wanted, ?_⟩
    by_cases index : View.base name = "index"
    · rw [View.publicSegments, if_pos index, List.append_nil]
      exact answer_index proper linkless own routed index
    · rw [ends index (routed.extension.resolve_left fun plain => ?_)]
      · exact answer_own proper own routed _
      · simp [preferredPage?, View.publicSegments, index, plain] at wanted
  | some page =>
    by_cases same : page = ownSegments name
    · subst same
      exact ⟨_, preferred_of_page wanted (find_own proper own routed), answer_own proper own routed _⟩
    · refine ⟨_, preferred_of_ne proper linkless own routed wanted same, ?_⟩
      by_cases index : View.base name = "index"
      · rw [View.publicSegments, if_pos index, List.append_nil]
        exact answer_index proper linkless own routed index
      · -- The preferred page is that of the template, unless its base ends in `.html` already.
        rw [ends index (Classical.byContradiction fun bare => same ?_)]
        · exact answer_own proper own routed _
        · rw [View.publicSegments, if_neg index] at wanted
          rw [preferredPage?_concat wanted, ownSegments, View.fileName, if_neg bare]

omit linkless own

theorem requested_publicPath : requested (View.publicPath name) = View.publicSegments name := by
  have named : View.base name ≠ "" ∧ View.base name ≠ "." ∧ View.base name ≠ ".." := by
    simpa using routed.named
  have same := View.pathSegments_publicPath ⟨named.1, named.2.1⟩
  have straight : ".." ∉ View.publicSegments name := by
    rw [View.publicSegments, List.mem_append]
    rintro (above | last)
    · exact proper.straight (List.mem_append_right _ (List.mem_append_left _ above))
    · split at last
      · cases last
      · exact named.2.2 (List.mem_singleton.1 last).symm
  exact (requested_eq (same ▸ straight)).trans same

include linkless own

/-- A request for the public path of a template is answered with its page. -/
theorem respond_page : respond files root "GET" (View.publicPath name) = .ok ⟨200, content, none⟩ := by
  obtain ⟨segments, first, answered⟩ := answer_preferred proper linkless own routed
  have checked : checkRoot files root = .ok () := by
    obtain ⟨-, found, directory⟩ := directory_above_own proper linkless own List.nil_prefix
    rw [Path.append_nil] at found directory
    unfold checkRoot
    rw [found]
    dsimp only
    rw [directory]
  unfold respond
  dsimp only
  rw [if_pos routed.served, checked, String.ofList_toList, requested_publicPath proper routed, first]
  exact answered

end

end Folio.Preview
