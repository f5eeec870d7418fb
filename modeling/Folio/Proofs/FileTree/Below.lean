import Folio.Proofs.FileTree.Write

/-!
# What lies below a directory

Where no link lies below a directory or on the way to it, the files below it are those that the tree
has there (`mem_filesBelow`), and trees that are the same below the directory and on the way to it
list the same files (`SameBelow.filesBelow`).
-/

namespace Folio.FileTree

variable {t t' : FileTree} {d p q : Path}

theorem exists_mem_entries {e : Entry} (there : t.get? p = some e) (other : p ≠ Path.root) :
    ∃ e, (p, e) ∈ t.entries := by
  rw [FileTree.get?, if_neg other] at there
  obtain ⟨⟨q, e⟩, member, same⟩ :=
    List.lookup_isSome_iff.1 (Option.isSome_iff_exists.2 ⟨_, there⟩)
  exact ⟨e, eq_of_beq same ▸ member⟩

theorem exists_get?_of_mem {e : Path × Entry} (member : e ∈ t.entries) :
    ∃ there, t.get? e.1 = some there := by
  unfold FileTree.get?
  split
  · exact ⟨_, rfl⟩
  · exact Option.isSome_iff_exists.1 (List.lookup_isSome_iff.2 ⟨e, member, beq_self_eq_true e.1⟩)

theorem HasLink.exists_mem (link : t.HasLink p) : ∃ e ∈ t.entries, e.1 = p := by
  obtain ⟨target, found⟩ := link
  have other : p ≠ Path.root := by
    rintro rfl
    cases found
  obtain ⟨e, member⟩ := exists_mem_entries found other
  exact ⟨_, member, rfl⟩

instance (t : FileTree) (p : Path) : Decidable (t.Linkless p) :=
  decidable_of_iff (∀ e ∈ t.entries, p.isBelow e.1 = true → ¬ t.HasLink e.1) <| by
    refine ⟨fun none q above link => ?_, fun linkless e _ above => linkless e.1 above⟩
    obtain ⟨e, member, rfl⟩ := link.exists_mem
    exact none e member above link

/-- Whether no link lies below a directory or on the way to it, and all that lies below it has a
proper path. -/
structure PlainBelow (t : FileTree) (d : Path) : Prop where
  directory : d.IsProper
  proper : ∀ p e, t.get? p = some e → p.isBelow d = true → p.IsProper
  linkless : ∀ p, p.isBelow d = true ∨ d.isBelow p = true → ¬ t.HasLink p

instance (t : FileTree) (d : Path) : Decidable (t.PlainBelow d) :=
  decidable_of_iff (d.IsProper ∧ ∀ e ∈ t.entries, (e.1.isBelow d = true → e.1.IsProper) ∧
    (e.1.isBelow d = true ∨ d.isBelow e.1 = true → ¬ t.HasLink e.1)) <| by
    refine ⟨fun ⟨directory, all⟩ => ⟨directory, fun p e found below => ?_, fun p near link => ?_⟩,
      fun plain => ⟨plain.directory, fun e member => ⟨fun below => ?_, plain.linkless e.1⟩⟩⟩
    · by_cases top : p = Path.root
      · subst top
        exact fun segment member => nomatch member
      · obtain ⟨e, member⟩ := exists_mem_entries found top
        exact (all _ member).1 below
    · obtain ⟨e, member, rfl⟩ := link.exists_mem
      exact (all e member).2 near link
    · obtain ⟨there, found⟩ := exists_get?_of_mem member
      exact plain.proper e.1 there found below

namespace PlainBelow

theorem mono (plain : t.PlainBelow d) (proper : q.IsProper) (below : q.isBelow d = true) :
    t.PlainBelow q where
  directory := proper
  proper p e found under := plain.proper p e found (Path.isBelow_trans under below)
  linkless p near := by
    refine plain.linkless p ?_
    rcases near with under | above
    · exact Or.inl (Path.isBelow_trans under below)
    · exact Path.isBelow_total above below

theorem passes (plain : t.PlainBelow d) (below : p.isBelow d = true) : t.Linkless p :=
  fun q above => plain.linkless q (Path.isBelow_total above below)

theorem get? (plain : t.PlainBelow d) (proper : p.IsProper) (below : p.isBelow d = true)
    {e : Entry} (named : t.target? p = some e) : t.get? p = some e :=
  get?_of_target? proper (plain.passes below) named

theorem resolve_eq (plain : t.PlainBelow d) (proper : p.IsProper) (below : p.isBelow d = true) :
    t.resolve p = p :=
  FileTree.resolve_eq proper (plain.passes below)

end PlainBelow

theorem isFile_iff : t.isFile p = true ↔ ∃ content, t.target? p = some (.file content) := by
  unfold isFile
  split <;> simp_all

theorem mem_namesBelow {names : List String} : names ∈ t.namesBelow d ↔
    names ≠ [] ∧ ∃ e, (d.append names, e) ∈ t.entries := by
  unfold namesBelow
  simp only [List.mem_map, Path.sort, mem_sortBy, List.mem_filterMap]
  constructor
  · rintro ⟨_, ⟨segments, ⟨⟨q, e⟩, listed, found⟩, rfl⟩, rfl⟩
    obtain ⟨below, more⟩ := Option.filter_eq_some_iff.1 found
    obtain rfl := Path.append_of_below? below
    exact ⟨by simpa using more, e, listed⟩
  · rintro ⟨some, e, listed⟩
    refine ⟨⟨names⟩, ⟨names, ⟨_, listed, ?_⟩, rfl⟩, rfl⟩
    rw [Path.below?_append]
    exact Option.filter_eq_some_iff.2 ⟨rfl, by simpa using some⟩

theorem mem_pathsBelow (found : t.locateTarget d = .ok d) (directory : t.get? d = some .directory) :
    p ∈ t.pathsBelow d ↔ p ≠ d ∧ p.isBelow d = true ∧ ∃ e, (p, e) ∈ t.entries := by
  unfold pathsBelow
  rw [found]
  simp only [directory, if_true, List.mem_map, mem_namesBelow]
  constructor
  · rintro ⟨names, ⟨some, listed⟩, rfl⟩
    refine ⟨fun same => some ?_, Path.isBelow_append .., listed⟩
    exact List.append_right_eq_self.1 (congrArg Path.segments same)
  · rintro ⟨other, below, listed⟩
    obtain ⟨names, rfl⟩ := Path.isBelow_iff.1 below
    exact ⟨names, ⟨fun none => other (by rw [none, Path.append_nil]), listed⟩, rfl⟩

theorem isBelow_of_mem_filesBelow (listed : p ∈ t.filesBelow d) :
    p.isBelow d = true := by
  have listed := (List.mem_filter.1 listed).1
  unfold pathsBelow at listed
  split at listed
  · split at listed
    · obtain ⟨names, -, rfl⟩ := List.mem_map.1 listed
      exact Path.isBelow_append ..
    · cases listed
  · cases listed

namespace PlainBelow

theorem of_mem_pathsBelow (plain : t.PlainBelow d) (listed : p ∈ t.pathsBelow d) :
    p.IsProper ∧ p ≠ d ∧ p.isBelow d = true := by
  have found : t.locateTarget d = .ok d ∧ t.get? d = some .directory := by
    unfold pathsBelow at listed
    split at listed
    · next q found =>
      obtain rfl := locateTarget_eq plain.directory (plain.passes (Path.isBelow_refl d)) found
      split at listed
      · next directory => exact ⟨found, directory⟩
      · cases listed
    · cases listed
  obtain ⟨other, below, e, member⟩ := (mem_pathsBelow found.1 found.2).1 listed
  obtain ⟨e, there⟩ := exists_get?_of_mem member
  exact ⟨plain.proper p e there below, other, below⟩

end PlainBelow

/-- The files below a plain directory are those that the tree has there. -/
theorem mem_filesBelow (plain : t.PlainBelow d) : p ∈ t.filesBelow d ↔
    p.IsProper ∧ p ≠ d ∧ p.isBelow d = true ∧ t.isFile p = true := by
  unfold filesBelow
  rw [List.mem_filter]
  constructor
  · rintro ⟨listed, file⟩
    obtain ⟨proper, other, below⟩ := plain.of_mem_pathsBelow listed
    exact ⟨proper, other, below, file⟩
  · rintro ⟨proper, other, below, file⟩
    obtain ⟨content, named⟩ := isFile_iff.1 file
    obtain ⟨found, directory⟩ :=
      directory_above proper (plain.passes below) named below (Ne.symm other)
    have there := plain.get? proper below named
    have under : p ≠ Path.root := by
      rintro rfl
      cases there
    exact ⟨(mem_pathsBelow found directory).2 ⟨other, below, exists_mem_entries there under⟩, file⟩

/-! ## Trees that are the same below a directory -/

/-- Whether two trees are the same below a directory and on the way to it. -/
structure SameBelow (d : Path) (t t' : FileTree) : Prop where
  part : t'.part d = t.part d
  above : ∀ q, d.isBelow q = true → t'.get? q = t.get? q

instance (d : Path) (t t' : FileTree) : Decidable (SameBelow d t t') :=
  decidable_of_iff (t'.part d = t.part d ∧
    ∀ n ≤ d.segments.length, t'.get? ⟨d.segments.take n⟩ = t.get? ⟨d.segments.take n⟩) <| by
    refine ⟨fun ⟨part, above⟩ => ⟨part, fun q upward => ?_⟩, fun same => ⟨same.part, fun n _ => ?_⟩⟩
    · have here := List.isPrefixOf_iff_prefix.1 upward
      have taken : (⟨d.segments.take q.segments.length⟩ : Path) = q :=
        congrArg Path.mk (List.prefix_iff_eq_take.1 here).symm
      exact taken ▸ above q.segments.length here.length_le
    · exact same.above _ (List.isPrefixOf_iff_prefix.2 (List.take_prefix ..))

namespace SameBelow

theorem refl (d : Path) (t : FileTree) : SameBelow d t t :=
  ⟨rfl, fun _ _ => rfl⟩

theorem symm (same : SameBelow d t t') : SameBelow d t' t :=
  ⟨same.part.symm, fun q above => (same.above q above).symm⟩

theorem trans {t'' : FileTree} (one : SameBelow d t t') (two : SameBelow d t' t'') :
    SameBelow d t t'' :=
  ⟨two.part.trans one.part, fun q above => (two.above q above).trans (one.above q above)⟩

theorem get? (same : SameBelow d t t') (near : p.isBelow d = true ∨ d.isBelow p = true) :
    t'.get? p = t.get? p :=
  near.elim (get?_eq_of_part same.part) (same.above p)

theorem plainBelow (same : SameBelow d t t') (plain : t.PlainBelow d) : t'.PlainBelow d where
  directory := plain.directory
  proper p e found below := plain.proper p e (same.get? (Or.inl below) ▸ found) below
  linkless p near link := by
    obtain ⟨target, found⟩ := link
    exact plain.linkless p near ⟨target, same.get? near ▸ found⟩

/-- A path below the directory is located and names the same in both trees. -/
theorem alike (same : SameBelow d t t') (plain : t.PlainBelow d) (proper : p.IsProper)
    (below : p.isBelow d = true) :
    t'.locateTarget p = t.locateTarget p ∧ t'.target? p = t.target? p := by
  have along (q : Path) (above : p.isBelow q = true) : t'.get? q = t.get? q :=
    same.get? (Path.isBelow_total above below)
  exact ⟨locateTarget_congr proper (plain.passes below) along,
    target?_congr proper (plain.passes below) along⟩

theorem isFile (same : SameBelow d t t') (plain : t.PlainBelow d) (proper : p.IsProper)
    (below : p.isBelow d = true) : t'.isFile p = t.isFile p := by
  unfold FileTree.isFile
  rw [(same.alike plain proper below).2]

theorem namesBelow (same : SameBelow d t t') : t'.namesBelow d = t.namesBelow d := by
  let below (e : Path × Entry) := (e.1.below? d).filter fun segments => !segments.isEmpty
  have listed (t : FileTree) : t.entries.filterMap below = (t.part d).filterMap below := by
    unfold FileTree.part FileTree.chosen
    rw [List.filterMap_filter]
    congr 1
    funext e
    unfold below Path.below? Path.isBelow
    split <;> rfl
  change ((Path.sort ((t'.entries.filterMap below).map Path.mk)).map Path.segments) =
    (Path.sort ((t.entries.filterMap below).map Path.mk)).map Path.segments
  rw [listed t', listed t, same.part]

/-- The same files are listed in both trees. -/
theorem filesBelow (same : SameBelow d t t') (plain : t.PlainBelow d) :
    t'.filesBelow d = t.filesBelow d := by
  have listed : t'.pathsBelow d = t.pathsBelow d := by
    unfold pathsBelow
    rw [(same.alike plain plain.directory (Path.isBelow_refl d)).1]
    split
    · next q found =>
      obtain rfl := locateTarget_eq plain.directory (plain.passes (Path.isBelow_refl d)) found
      rw [same.above q (Path.isBelow_refl q), same.namesBelow]
    · rfl
  unfold FileTree.filesBelow
  rw [listed]
  refine List.filter_congr fun p member => ?_
  obtain ⟨proper, -, below⟩ := plain.of_mem_pathsBelow member
  exact same.isFile plain proper below

end SameBelow

end Folio.FileTree
