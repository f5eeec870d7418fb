import Folio.Proofs.FileTree.Fence
import Folio.Proofs.Mirror
import Folio.Proofs.Sorting

/-!
# Trees with the same entries

The entries of a tree have an order, but nothing goes by it: two trees that hold the same at each
path are searched and listed alike (`Same.locateTarget`, `Same.filesBelow`), and an operation comes
to the same in both and leaves trees that hold the same (`Op.steady_copy`). A directory that is
reset forgets what lay there: trees that differ only there become the same
(`Op.resetDirectory_same`).
-/

namespace Folio

/-! ## Tables in any order -/

namespace Table

variable {κ α : Type} [DecidableEq κ] {key : κ} {value : α} {table one two : List (κ × α)}

theorem lookup_eq_some_iff (nodup : (keys table).Nodup) :
    table.lookup key = some value ↔ (key, value) ∈ table := by
  induction table with
  | nil => simp
  | cons e rest ih =>
    obtain ⟨k, v⟩ := e
    obtain ⟨fresh, nodup⟩ := List.nodup_cons.1 nodup
    rw [List.lookup_cons]
    by_cases same : key = k
    · subst same
      have absent : (key, value) ∉ rest := fun member =>
        fresh (List.mem_map.2 ⟨_, member, rfl⟩)
      simp [absent, eq_comm]
    · simp [beq_eq_false_iff_ne.2 same, ih nodup, same]

omit [DecidableEq κ] in
theorem nodup_of_keys (nodup : (keys table).Nodup) : table.Nodup :=
  (List.pairwise_map.1 nodup).imp fun other same => other (congrArg Prod.fst same)

theorem lookup_perm (perm : one.Perm two) (nodup : (keys one).Nodup) (key : κ) :
    one.lookup key = two.lookup key := by
  have nodup' : (keys two).Nodup := (perm.map _).nodup_iff.1 nodup
  refine Option.ext fun value => ?_
  rw [lookup_eq_some_iff nodup, lookup_eq_some_iff nodup', perm.mem_iff]

theorem perm_put (nodup : (keys table).Nodup) (key : κ) (value : α) :
    (put key value table).Perm ((key, value) :: erase key table) := by
  induction table with
  | nil => exact .refl _
  | cons e rest ih =>
    obtain ⟨k, v⟩ := e
    obtain ⟨fresh, nodup⟩ := List.nodup_cons.1 nodup
    unfold put
    split
    · next same =>
      subst same
      have kept : erase k ((k, v) :: rest) = rest := by
        unfold erase
        rw [List.filter_cons_of_neg (by simp), List.filter_eq_self]
        intro e member
        simpa using fun same : e.1 = k => fresh (List.mem_map.2 ⟨e, member, same⟩)
      rw [kept]
    · next other =>
      have kept : erase key ((k, v) :: rest) = (k, v) :: erase key rest := by
        simp [erase, other]
      rw [kept]
      exact ((ih nodup).cons (k, v)).trans (.swap ..)

end Table

theorem Reordered.eq {α : Type} {alike : α → α → Prop} {one two : List α}
    (reordered : Reordered alike one two) (same : ∀ a b, alike a b → a = b) : one = two := by
  induction reordered with
  | nil => rfl
  | cons a _ ih => rw [ih]
  | swap rest tied => rw [same _ _ tied]
  | trans _ _ ih ih' => exact ih.trans ih'

namespace Path

theorem isBefore_iff {a b : Path} : a.isBefore b = true ↔ ¬ b.segments < a.segments := by
  rw [isBefore, Bool.not_eq_true', decide_eq_false_iff_not]

theorem sort_perm {one two : List Path} (perm : one.Perm two) : sort one = sort two := by
  have trans (a b c : Path) (first : a.isBefore b = true) (second : b.isBefore c = true) :
      a.isBefore c = true := by
    rw [isBefore_iff, List.not_lt] at first second ⊢
    exact List.le_trans first second
  have total (a b : Path) : a.isBefore b = true ∨ b.isBefore a = true := by
    rw [isBefore_iff, isBefore_iff, List.not_lt, List.not_lt]
    exact List.le_total ..
  refine (reordered_sortBy trans total perm).eq fun a b tied => congrArg Path.mk ?_
  rw [Tied, isBefore_iff, isBefore_iff, List.not_lt, List.not_lt] at tied
  exact List.le_antisymm tied.1 tied.2

end Path

namespace FileTree

variable {t t' : FileTree}

/-- Whether two trees hold the same entries, each path once. -/
structure Same (t t' : FileTree) : Prop where
  perm : t.entries.Perm t'.entries
  nodup : (Table.keys t.entries).Nodup

namespace Same

/-! ## Searches and listings -/

theorem refl (nodup : (Table.keys t.entries).Nodup) : Same t t :=
  ⟨.refl _, nodup⟩

section Reads

variable (same : Same t t')

include same

theorem get? : t.get? = t'.get? := by
  funext p
  unfold FileTree.get?
  rw [Table.lookup_perm same.perm same.nodup]

theorem walkOn (followLast : Bool)
    (follow : Option (Path → List String → Except FileProblem Path)) (here : Path)
    (names : List String) :
    t.walkOn followLast follow here names = t'.walkOn followLast follow here names := by
  induction names generalizing here with
  | nil => rfl
  | cons name rest ih =>
    unfold FileTree.walkOn
    rw [same.get?, ih, ih]

theorem walk (followLast : Bool) (links : Nat) :
    t.walk followLast links = t'.walk followLast links := by
  induction links with
  | zero =>
    funext here names
    exact same.walkOn followLast none here names
  | succ links ih =>
    funext here names
    unfold FileTree.walk
    rw [ih]
    exact same.walkOn followLast _ here names

theorem locate : t.locate = t'.locate := by
  funext p
  rw [FileTree.locate, FileTree.locate, same.walk]

theorem locateTarget : t.locateTarget = t'.locateTarget := by
  funext p
  rw [FileTree.locateTarget, FileTree.locateTarget, same.walk]

theorem target? : t.target? = t'.target? := by
  funext p
  unfold FileTree.target?
  rw [same.locateTarget, same.get?]

theorem isFile : t.isFile = t'.isFile := by
  funext p
  rw [FileTree.isFile, FileTree.isFile, same.target?]

theorem isDirectory : t.isDirectory = t'.isDirectory := by
  funext p
  rw [FileTree.isDirectory, FileTree.isDirectory, same.target?]

theorem pathExists : t.pathExists = t'.pathExists := by
  funext p
  rw [FileTree.pathExists, FileTree.pathExists, same.target?]

theorem isLink : t.isLink = t'.isLink := by
  funext p
  unfold FileTree.isLink
  rw [same.locate, same.get?]

theorem resolveOn (follow : Option (Ends → Path → List Step → Path)) (ends : Ends) (here : Path)
    (steps : List Step) :
    t.resolveOn follow ends here steps = t'.resolveOn follow ends here steps := by
  induction steps generalizing ends here with
  | nil => rfl
  | cons step rest ih =>
    cases step with
    | leave link => exact ih _ _
    | enter name =>
      unfold FileTree.resolveOn
      simp only [same.get?, ih]

theorem resolveFrom (links : Nat) : t.resolveFrom links = t'.resolveFrom links := by
  induction links with
  | zero =>
    funext ends here steps
    exact same.resolveOn none ends here steps
  | succ links ih =>
    funext ends here steps
    unfold FileTree.resolveFrom
    rw [ih]
    exact same.resolveOn _ ends here steps

theorem resolve : t.resolve = t'.resolve := by
  funext p
  rw [FileTree.resolve, FileTree.resolve, same.perm.length_eq, same.resolveFrom]

theorem realPath : t.realPath = t'.realPath := by
  funext p
  unfold FileTree.realPath
  rw [same.resolve, same.locateTarget]

theorem namesBelow : t.namesBelow = t'.namesBelow := by
  funext place
  unfold FileTree.namesBelow
  dsimp only
  rw [Path.sort_perm ((same.perm.filterMap _).map Path.mk)]

theorem pathsBelow : t.pathsBelow = t'.pathsBelow := by
  funext p
  unfold FileTree.pathsBelow
  rw [same.locateTarget, same.get?, same.namesBelow]

theorem filesBelow : t.filesBelow = t'.filesBelow := by
  funext p
  rw [FileTree.filesBelow, FileTree.filesBelow, same.pathsBelow, same.isFile]

theorem names : t.names = t'.names := by
  funext place
  rw [FileTree.names, FileTree.names, same.namesBelow]

/-! ## Changes -/

theorem put (p : Path) (e : Entry) : Same (t.put p e) (t'.put p e) where
  perm := by
    have nodup' : (Table.keys t'.entries).Nodup := (same.perm.map _).nodup_iff.1 same.nodup
    have rest := (same.perm.filter fun e => decide (e.1 ≠ p)).cons (p, e)
    exact (Table.perm_put same.nodup p e).trans (rest.trans (Table.perm_put nodup' p e).symm)
  nodup := Table.nodup_keys_put same.nodup p e

theorem erase (p : Path) : Same (t.erase p) (t'.erase p) where
  perm := same.perm.filter _
  nodup := Table.nodup_keys_erase same.nodup p

theorem prune (p : Path) : Same (t.prune p) (t'.prune p) where
  perm := same.perm.filter _
  nodup := same.nodup.sublist (List.filter_sublist.map _)

end Reads

end Same

/-! ## Operations -/

namespace Op

variable {α β : Type}

/-- Whether an operation comes to the same in trees with the same entries. -/
abbrev Steady (x : Op α) : Prop :=
  Mirrors Same x x

theorem steady_find {search : FileTree → Except FileProblem Path}
    (alike : ∀ t t', Same t t' → search t = search t') : Steady (find search) := by
  intro t t' same
  unfold find
  rw [alike t t' same]
  cases search t' with
  | ok p => exact .ok p same
  | error problem => exact .error problem same

theorem steady_locate (p : Path) : Steady (find (·.locate p)) :=
  steady_find fun _ _ same => congrFun same.locate p

theorem steady_locateTarget (p : Path) : Steady (find (·.locateTarget p)) :=
  steady_find fun _ _ same => congrFun same.locateTarget p

theorem steady_attempt {x : Op α} (steady : Steady x) : Steady (attempt x) := by
  intro t t' same
  have mirrored := steady t t' same
  unfold attempt
  revert mirrored
  generalize x t = one
  generalize x t' = other
  rintro ⟨⟩
  · next a _ _ same => exact .ok (Except.ok a) same
  · next problem _ _ same => exact .ok (Except.error problem) same

/-- An operation that may stop first is steady if it is without that. -/
theorem steady_unless {stops : Prop} [Decidable stops] {problem : FileProblem} {x : Op α}
    (steady : Steady x) : Steady (do
      if stops then throw problem
      x) := by
  dsimp only
  split
  · exact (Mirrors.throw _).bind fun _ => steady
  · exact steady

theorem steady_content (p : Path) : Steady (content p) := by
  refine (steady_locateTarget p).bind fun q => .get_bind fun t t' same => ?_
  rw [same.get?]
  split
  · exact .pure _
  · exact .throw _
  · exact .throw _

theorem steady_writeFile (p : Path) (content : Bytes) : Steady (writeFile p content) := by
  refine (steady_locateTarget p).bind fun q => .get_bind fun t t' same => ?_
  rw [same.get?]
  exact steady_unless (.modify fun _ _ same => same.put q _)

theorem steady_makeDirectory (p : Path) : Steady (makeDirectory p) := by
  refine (steady_locate p).bind fun q => .get_bind fun t t' same => ?_
  rw [same.get?]
  split
  · exact (Mirrors.throw _).bind fun _ => .modify fun _ _ same => same.put q _
  · exact .modify fun _ _ same => same.put q _

theorem steady_unlessDirectory (p : Path) (problem : FileProblem) : Steady (do
    if !(← get).isDirectory p then throw problem) := by
  refine .get_bind fun t t' same => ?_
  rw [same.isDirectory]
  split
  · exact .throw _
  · exact .pure _

theorem steady_ensureDirectory (p : Path) : Steady (ensureDirectory p) := by
  refine (steady_attempt (steady_makeDirectory p)).bind fun outcome => ?_
  cases outcome with
  | ok _ => exact .pure _
  | error problem => exact steady_unlessDirectory p problem

theorem steady_ensureDirectoriesFrom (names : List String) :
    Steady (ensureDirectoriesFrom names) := by
  induction names with
  | nil => exact .pure _
  | cons name above ih =>
    refine (steady_attempt (steady_makeDirectory _)).bind fun outcome => ?_
    split
    · exact .pure _
    · exact ih.bind fun _ => steady_ensureDirectory _
    · exact steady_unlessDirectory _ _

theorem steady_ensureDirectories (p : Path) : Steady (ensureDirectories p) :=
  steady_ensureDirectoriesFrom _

theorem steady_unlink (p : Path) : Steady (unlink p) := by
  refine (steady_locate p).bind fun q => .get_bind fun t t' same => ?_
  rw [same.get?]
  split
  · exact .throw _
  · exact .throw _
  · exact .modify fun _ _ same => same.erase q

theorem steady_rename (source destination : Path) : Steady (rename source destination) := by
  refine (steady_locate source).bind fun p => (steady_locate destination).bind fun q => ?_
  refine steady_unless (.get_bind fun t t' same => ?_)
  rw [same.get?]
  split
  · exact .throw _
  · refine .get_bind fun t t' same => ?_
    rw [same.get?]
    exact steady_unless (.modify fun _ _ same => (same.erase p).put q _)

theorem steady_removeTree (p : Path) : Steady (removeTree p) :=
  (steady_locate p).bind fun q => .modify fun _ _ same => same.prune q

theorem steady_write (p : Path) (content : Bytes) : Steady (write p content) := by
  refine (steady_ensureDirectories _).bind fun _ => steady_unless ?_
  exact (steady_writeFile _ _).bind fun _ => steady_rename _ _

theorem steady_remove (p : Path) : Steady (remove p) := by
  refine (steady_attempt (steady_unlink p)).bind fun outcome => ?_
  split
  · exact .pure _
  · exact .pure _
  · exact .throw _

theorem steady_clear (p : Path) : Steady (clear p) := by
  refine .get_bind fun t t' same => ?_
  rw [same.isLink, same.isFile, same.pathExists]
  split
  · exact steady_unlink p
  · split
    · exact steady_removeTree p
    · exact .pure _

theorem steady_link (target p : Path) : Steady (link target p) := by
  refine (steady_ensureDirectories _).bind fun _ => (steady_clear p).bind fun _ => ?_
  refine .get_bind fun t t' same => ?_
  have placed : Steady (do
      let q ← find (·.locate p)
      modify (·.put q (.link (relativeText target p.parent)))) :=
    (steady_locate p).bind fun q => .modify fun _ _ same => same.put q _
  rw [same.locateTarget]
  split
  · exact (Mirrors.throw _).bind fun _ => placed
  · exact placed

theorem steady_copyFile (naming : Naming) (source destination : Path) :
    Steady (copyFile naming source destination) := by
  refine .get_bind fun t t' same => ?_
  have copied (into : Path) : Steady (do
      let bytes ← content source
      writeFile into bytes) :=
    (steady_content source).bind fun bytes => steady_writeFile into bytes
  dsimp only
  rw [same.isDirectory, same.locateTarget, same.get?]
  split
  · split
    · exact (Mirrors.throw _).bind fun _ => copied _
    · exact copied _
  · exact copied _

theorem steady_copyTree (depth : Nat) (source destination : Path) :
    Steady (copyTree depth source destination) := by
  induction depth generalizing source destination with
  | zero => exact .throw _
  | succ depth ih =>
    refine (steady_locateTarget source).bind fun place => .get_bind fun t t' same => ?_
    rw [same.names]
    refine (steady_ensureDirectory destination).bind fun _ => ?_
    refine (Mirrors.foldlM (fun failed name => .get_bind fun t t' same => ?_) []).bind
      fun failed => ?_
    · rw [same.isDirectory]
      refine (steady_attempt ?_).bind fun outcome => ?_
      · split
        · exact ih _ _
        · exact steady_copyFile _ _ _
      · cases outcome <;> exact .pure _
    · split
      · exact .throw _
      · exact .pure _

theorem steady_copy (source destination : Path) : Steady (copy source destination) := by
  refine (steady_ensureDirectories _).bind fun _ => .get_bind fun t t' same => ?_
  rw [same.isDirectory, same.perm.length_eq]
  split
  · exact steady_copyTree _ _ _
  · exact steady_copyFile _ _ _

/-- What a reset does once its place is cleared. -/
def remake (p : Path) : Op Unit := do
  match ← attempt (makeDirectory p) with
  | .ok () => return
  | .error .missing =>
    ensureDirectories p.parent
    makeDirectory p
  | .error problem => throw problem

theorem resetDirectory_eq (p : Path) : resetDirectory p = (do clear p; remake p) :=
  rfl

theorem steady_remake (p : Path) : Steady (remake p) := by
  refine (steady_attempt (steady_makeDirectory p)).bind fun outcome => ?_
  split
  · exact .pure _
  · exact (steady_ensureDirectories _).bind fun _ => steady_makeDirectory p
  · exact .throw _

end Op

/-! ## Trees -/

/-- Whether all that a tree holds lies in directories, each path once. -/
structure IsTree (t : FileTree) : Prop where
  rooted : t.Rooted
  nodup : (Table.keys t.entries).Nodup
  bare : Path.root ∉ Table.keys t.entries

instance (t : FileTree) : Decidable t.IsTree :=
  decidable_of_iff (t.Rooted ∧ (Table.keys t.entries).Nodup ∧ Path.root ∉ Table.keys t.entries)
    ⟨fun ⟨rooted, nodup, bare⟩ => ⟨rooted, nodup, bare⟩,
      fun tree => ⟨tree.rooted, tree.nodup, tree.bare⟩⟩

theorem lookup_eq_get? (bare : Path.root ∉ Table.keys t.entries) (p : Path) :
    t.entries.lookup p = if p = Path.root then none else t.get? p := by
  unfold get?
  split
  · next top => exact Option.not_isSome_iff_eq_none.1 (mt Table.mem_keys_iff.2 (top ▸ bare))
  · rfl

/-- Trees that hold the same at each path hold the same entries. -/
theorem Same.of_get? (nodup : (Table.keys t.entries).Nodup) (nodup' : (Table.keys t'.entries).Nodup)
    (bare : Path.root ∉ Table.keys t.entries) (bare' : Path.root ∉ Table.keys t'.entries)
    (same : ∀ p, t.get? p = t'.get? p) : Same t t' where
  perm := by
    have once := Table.nodup_of_keys nodup
    refine (List.perm_ext_iff_of_nodup once (Table.nodup_of_keys nodup')).2 fun e => ?_
    rw [← Table.lookup_eq_some_iff nodup, ← Table.lookup_eq_some_iff nodup', lookup_eq_get? bare,
      lookup_eq_get? bare', same]
  nodup := nodup

section Resets

variable {d : Path} {u u' : FileTree}

theorem get?_of_cleared (rooted : t.Rooted) (below : d ≠ Path.root)
    (cleared : u = t ∨ (t.get? d ≠ some .directory ∧ u = t.erase d) ∨ u = t.prune d)
    (gone : u.get? d = none) (q : Path) :
    u.get? q = if q.isBelow d = true then none else t.get? q := by
  have under : q.isBelow d = true → q ≠ d → t.get? d ≠ some .directory → t.get? q = none := by
    intro inside other unlike
    cases found : t.get? q with
    | none => rfl
    | some e => exact absurd (rooted.directory found inside other) unlike
  split
  · next inside =>
    by_cases here : q = d
    · exact here ▸ gone
    · rcases cleared with rfl | ⟨unlike, rfl⟩ | rfl
      · exact under inside here (by simp [gone])
      · rw [get?_erase_of_ne here]
        exact under inside here unlike
      · refine get?_prune_below inside fun top => below ?_
        subst top
        exact (Path.eq_of_isBelow inside (Path.isBelow_iff.2 ⟨_, rfl⟩)).symm
  · next outside =>
    have other : q ≠ d := fun same => outside (same ▸ Path.isBelow_refl d)
    rcases cleared with rfl | ⟨-, rfl⟩ | rfl
    · rfl
    · exact get?_erase_of_ne other
    · exact get?_prune_of_not (Bool.eq_false_iff.2 outside)

theorem Grown.none_before {q : Path} (grown : Grown d t u) (gone : u.get? q = none) :
    t.get? q = none := by
  cases found : t.get? q with
  | none => rfl
  | some e => cases gone.symm.trans (grown.kept q e found)

theorem sublist_of_cleared
    (cleared : u = t ∨ (t.get? d ≠ some .directory ∧ u = t.erase d) ∨ u = t.prune d) :
    u.entries.Sublist t.entries := by
  rcases cleared with rfl | ⟨-, rfl⟩ | rfl
  · exact .refl _
  · exact List.filter_sublist
  · exact List.filter_sublist

/-- Where something lies in a directory, all above that is a directory. -/
theorem Rooted.directory_above {q p : Path} {e : Entry} (rooted : t.Rooted)
    (found : t.get? q = some e) (inside : q.isBelow d = true) (below : d ≠ Path.root)
    (above : d.parent.isBelow p = true) : p.isBelow d = false ∧ t.get? p = some .directory := by
  have outside : p.isBelow d = false := by
    rw [Bool.eq_false_iff]
    exact fun inside => below (Path.eq_root_of_isBelow_parent (Path.isBelow_trans above inside))
  have under := Path.isBelow_trans (Path.isBelow_trans inside d.isBelow_parent) above
  refine ⟨outside, rooted.directory found under fun same => ?_⟩
  rw [← same, inside] at outside
  cases outside

theorem Op.resetDirectory_ne_root : resetDirectory Path.root t ≠ .ok () u := by
  intro ran
  have linkless : t.Linkless Path.root.parent := by
    rintro q above ⟨target, link⟩
    obtain rfl : q = Path.root := Path.eq_of_isBelow (Path.isBelow_iff.2 ⟨q.segments, rfl⟩) above
    cases link
  have proper : Path.root.IsProper := fun _ member => absurd member List.not_mem_nil
  obtain ⟨_, _, -, -, -, gone, -⟩ := resetDirectory_ok proper linkless ran
  exact absurd gone (by simp [get?])

/-- Trees that hold the same but for a directory are the same once that is reset. -/
theorem Op.resetDirectory_same (tree : t.IsTree) (tree' : t'.IsTree)
    (outside : ∀ q, q.isBelow d = false → t.get? q = t'.get? q)
    (ran : resetDirectory d t = .ok () u) (ran' : resetDirectory d t' = .ok () u') :
    Same u u' := by
  rw [resetDirectory_eq] at ran ran'
  obtain ⟨_, v, cleared, made⟩ := bind_ok_iff.1 ran
  obtain ⟨_, v', cleared', made'⟩ := bind_ok_iff.1 ran'
  suffices same : Same v v' from ((steady_remake d).ok same made made').2
  by_cases empty : ∀ q, q.isBelow d = true → t.get? q = none ∧ t'.get? q = none
  · have same : Same t t' := by
      refine .of_get? tree.nodup tree'.nodup tree.bare tree'.bare fun q => ?_
      cases inside : q.isBelow d with
      | true => rw [(empty q inside).1, (empty q inside).2]
      | false => exact outside q inside
    exact ((steady_clear d).ok same cleared cleared').2
  · have below : d ≠ Path.root := fun top => resetDirectory_ne_root (top ▸ ran)
    have held : ∃ q, q.isBelow d = true ∧ (t.get? q ≠ none ∨ t'.get? q ≠ none) := by
      by_contra none
      exact empty fun q inside => by simpa using fun full => none ⟨q, inside, full⟩
    obtain ⟨q, inside, full⟩ := held
    have above : d.IsProper ∧ ∀ p, d.parent.isBelow p = true →
        t.get? p = some .directory ∧ t'.get? p = some .directory := by
      rcases full with full | full
      · obtain ⟨e, found⟩ := Option.ne_none_iff_exists'.1 full
        refine ⟨(tree.rooted q e found).1.above inside, fun p above => ?_⟩
        obtain ⟨out, directory⟩ := tree.rooted.directory_above found inside below above
        exact ⟨directory, outside p out ▸ directory⟩
      · obtain ⟨e, found⟩ := Option.ne_none_iff_exists'.1 full
        refine ⟨(tree'.rooted q e found).1.above inside, fun p above => ?_⟩
        obtain ⟨out, directory⟩ := tree'.rooted.directory_above found inside below above
        exact ⟨(outside p out).trans directory, directory⟩
    obtain ⟨proper, above⟩ := above
    have linkless : t.Linkless d.parent := by
      rintro p upward ⟨target, link⟩
      cases link.symm.trans (above p upward).1
    have linkless' : t'.Linkless d.parent := by
      rintro p upward ⟨target, link⟩
      cases link.symm.trans (above p upward).2
    obtain ⟨_, _, same, cases, grown, gone, -⟩ := resetDirectory_ok proper linkless ran
    cases same.symm.trans cleared
    obtain ⟨_, _, same', cases', grown', gone', -⟩ := resetDirectory_ok proper linkless' ran'
    cases same'.symm.trans cleared'
    have fewer := sublist_of_cleared cases
    have fewer' := sublist_of_cleared cases'
    have free : v.get? d = none := grown.none_before gone
    have free' : v'.get? d = none := grown'.none_before gone'
    refine .of_get? (tree.nodup.sublist (fewer.map _)) (tree'.nodup.sublist (fewer'.map _))
      (fun member => tree.bare ((fewer.map _).subset member))
      (fun member => tree'.bare ((fewer'.map _).subset member)) fun q => ?_
    rw [get?_of_cleared tree.rooted below cases free, get?_of_cleared tree'.rooted below cases' free']
    split
    · rfl
    · next out => exact outside q (Bool.eq_false_iff.2 out)

end Resets

end FileTree

end Folio
