import Folio.Dependency
import Mathlib.Data.Set.Card

/-!
# The dependency index over histories

An index that went through any records, removals and resets holds one relation in both directions:
that of the last record of each root (`run_indexes_history`). The invariant is `Indexed`. An
operation acts on it through `attach` and `detach`, which add and take away the pairs of one root
(`mem_foldl_attach`, `mem_foldl_detach`).
-/

namespace Folio.Dependencies

/-! ## Histories -/

inductive Operation
  | record (root : String) (files : List String)
  | forget (root : String)
  | clear
  deriving DecidableEq, Repr

def apply (base : Path) (d : Dependencies) : Operation → Dependencies
  | .record root files => d.record base root files
  | .forget root => d.forget base root
  | .clear => empty

/-- The index that some operations make, the oldest first. -/
def run (base : Path) (operations : List Operation) : Dependencies :=
  operations.foldl (apply base) empty

/-- Whether an operation ends what was recorded for a root before. -/
def Operation.supersedes (base : Path) (root : String) : Operation → Prop
  | .record other _ => normalize base other = root
  | .forget other => normalize base other = root
  | .clear => True

/-- The last record of a root, which nothing has dropped since, lists these files. -/
def LastRecord (base : Path) (operations : List Operation) (root : String)
    (files : List String) : Prop :=
  ∃ earlier later name, operations = earlier ++ .record name files :: later ∧
    normalize base name = root ∧ ∀ operation ∈ later, ¬ operation.supersedes base root

theorem not_lastRecord_nil (base : Path) (root : String) (files : List String) :
    ¬ LastRecord base [] root files := by
  rintro ⟨earlier, later, name, split, -⟩
  simp at split

theorem lastRecord_snoc (base : Path) (operations : List Operation) (operation : Operation)
    (root : String) (files : List String) :
    LastRecord base (operations ++ [operation]) root files ↔
      (∃ name, operation = .record name files ∧ normalize base name = root) ∨
        ¬ operation.supersedes base root ∧ LastRecord base operations root files := by
  constructor
  · rintro ⟨earlier, later, name, split, same, kept⟩
    rcases List.eq_nil_or_concat later with rfl | ⟨later, last, rfl⟩
    · obtain ⟨-, last⟩ := List.append_inj' split rfl
      exact Or.inl ⟨name, List.singleton_inj.1 last, same⟩
    · rw [List.concat_eq_append, ← List.cons_append, ← List.append_assoc] at split
      obtain ⟨shorter, last⟩ := List.append_inj' split rfl
      cases last
      exact Or.inr ⟨kept operation (by simp), earlier, later, name, shorter, same,
        fun op h => kept op (by simp [h])⟩
  · rintro (⟨name, rfl, same⟩ | ⟨other, earlier, later, name, rfl, same, kept⟩)
    · exact ⟨operations, [], name, rfl, same, by simp⟩
    · refine ⟨earlier, later ++ [operation], name, by simp, same, ?_⟩
      intro op member
      rcases List.mem_append.1 member with member | member
      · exact kept op member
      · rwa [List.mem_singleton.1 member]

/-! ## The pairs of a table -/

/-- The names that a table gives for a key. -/
def related (table : List (String × List String)) (key : String) : List String :=
  (table.lookup key).getD []

/-- No key occurs twice, and each has names, each once. -/
structure Tidy (table : List (String × List String)) : Prop where
  keys : (Table.keys table).Nodup
  filled : ∀ e ∈ table, e.2 ≠ [] ∧ e.2.Nodup

theorem mem_put {key : String} {names : List String} {table : List (String × List String)}
    {e : String × List String} (member : e ∈ Table.put key names table) :
    e = (key, names) ∨ e ∈ table := by
  induction table with
  | nil => exact Or.inl (List.mem_singleton.1 member)
  | cons head rest ih =>
    unfold Table.put at member
    split at member
    · exact (List.mem_cons.1 member).imp id (List.mem_cons_of_mem _)
    · rcases List.mem_cons.1 member with same | later
      · exact Or.inr (by simp [same])
      · exact (ih later).imp id (List.mem_cons_of_mem _)

namespace Tidy

variable {table : List (String × List String)}

theorem put (tidy : Tidy table) (key : String) {names : List String} (some : names ≠ [])
    (nodup : names.Nodup) : Tidy (Table.put key names table) where
  keys := Table.nodup_keys_put tidy.keys key names
  filled e member := by
    rcases mem_put member with rfl | old
    · exact ⟨some, nodup⟩
    · exact tidy.filled e old

theorem erase (tidy : Tidy table) (key : String) : Tidy (Table.erase key table) where
  keys := Table.nodup_keys_erase tidy.keys key
  filled e member := tidy.filled e (List.mem_filter.1 member).1

theorem related_nodup (tidy : Tidy table) (key : String) : (related table key).Nodup := by
  unfold related
  cases found : table.lookup key with
  | none => exact List.nodup_nil
  | some names =>
    obtain ⟨before, after, rfl, -⟩ := List.lookup_eq_some_iff.1 found
    exact (tidy.filled (key, names) (by simp)).2

/-- A tidy table has a key for each name that something is related to. -/
theorem mem_keys_iff (tidy : Tidy table) (key : String) :
    key ∈ Table.keys table ↔ ∃ name, name ∈ related table key := by
  rw [Table.mem_keys_iff]
  unfold related
  cases found : table.lookup key with
  | none => simp
  | some names =>
    obtain ⟨before, after, rfl, -⟩ := List.lookup_eq_some_iff.1 found
    have some := (tidy.filled (key, names) (by simp)).1
    simpa using List.exists_mem_of_ne_nil names some

end Tidy

theorem related_put (table : List (String × List String)) (key other : String)
    (names : List String) :
    related (Table.put key names table) other = if other = key then names else related table other := by
  unfold related
  split
  · next same => rw [same, Table.lookup_put_self, Option.getD_some]
  · next different => rw [Table.lookup_put_of_ne different]

theorem related_erase (table : List (String × List String)) (key other : String) :
    related (Table.erase key table) other = if other = key then [] else related table other := by
  unfold related
  split
  · next same => rw [same, Table.lookup_erase_self, Option.getD_none]
  · next different => rw [Table.lookup_erase_of_ne different]

/-! ## Adding and taking away pairs -/

theorem related_detach (root : String) (table : List (String × List String)) (file other : String) :
    related (detach root table file) other =
      if other = file then (related table file).filter (· ≠ root) else related table other := by
  cases found : table.lookup file with
  | none =>
    have unrelated : related table file = [] := by rw [related, found, Option.getD_none]
    simp only [detach, found, unrelated, List.filter_nil]
    split
    · next same => rw [same, unrelated]
    · rfl
  | some roots =>
    have roots_eq : related table file = roots := by rw [related, found, Option.getD_some]
    rw [roots_eq]
    cases rest : roots.filter (· ≠ root) with
    | nil => simp only [detach, found, rest, related_erase]
    | cons head tail => simp only [detach, found, rest, related_put]

theorem mem_related_detach {root : String} {table : List (String × List String)} {file : String}
    {other name : String} :
    name ∈ related (detach root table file) other ↔
      name ∈ related table other ∧ ¬ (other = file ∧ name = root) := by
  rw [related_detach]
  split
  · next same => simp [same]
  · next different => simp [different]

theorem tidy_detach {table : List (String × List String)} (tidy : Tidy table)
    (root file : String) : Tidy (detach root table file) := by
  cases found : table.lookup file with
  | none => simpa only [detach, found] using tidy
  | some roots =>
    have nodup : roots.Nodup := by
      have := tidy.related_nodup file
      rwa [related, found, Option.getD_some] at this
    cases rest : roots.filter (· ≠ root) with
    | nil => simpa only [detach, found, rest] using tidy.erase file
    | cons head tail =>
      have nodup : (head :: tail).Nodup := rest ▸ nodup.filter _
      simpa only [detach, found, rest] using tidy.put file (List.cons_ne_nil head tail) nodup

theorem attach_eq (root : String) (table : List (String × List String)) (file : String) :
    attach root table file =
      Table.put file (if (related table file).contains root then related table file
        else related table file ++ [root]) table :=
  rfl

theorem mem_related_attach {root : String} {table : List (String × List String)} {file : String}
    {other name : String} :
    name ∈ related (attach root table file) other ↔
      name ∈ related table other ∨ (other = file ∧ name = root) := by
  rw [attach_eq, related_put]
  split
  · next same =>
    subst same
    split
    · next present =>
      have present := List.contains_iff_mem.1 present
      exact ⟨Or.inl, fun h => h.elim id fun h => h.2 ▸ present⟩
    · simp
  · next different => simp [different]

theorem tidy_attach {table : List (String × List String)} (tidy : Tidy table)
    (root file : String) : Tidy (attach root table file) := by
  rw [attach_eq]
  split
  · next present =>
    exact tidy.put file (List.ne_nil_of_mem (List.contains_iff_mem.1 present))
      (tidy.related_nodup file)
  · next absent =>
    have absent : root ∉ related table file := fun h => absent (List.contains_iff_mem.2 h)
    refine tidy.put file (by simp) (List.nodup_append.2 ⟨tidy.related_nodup file, by simp, ?_⟩)
    intro name member other same
    rw [List.mem_singleton.1 same]
    exact ne_of_mem_of_not_mem member absent

theorem mem_foldl_detach {root : String} {files : List String}
    {table : List (String × List String)} {other name : String} :
    name ∈ related (files.foldl (detach root) table) other ↔
      name ∈ related table other ∧ ¬ (other ∈ files ∧ name = root) := by
  induction files generalizing table with
  | nil => simp
  | cons file files ih =>
    rw [List.foldl_cons, ih, mem_related_detach, List.mem_cons]
    tauto

theorem mem_foldl_attach {root : String} {files : List String}
    {table : List (String × List String)} {other name : String} :
    name ∈ related (files.foldl (attach root) table) other ↔
      name ∈ related table other ∨ (other ∈ files ∧ name = root) := by
  induction files generalizing table with
  | nil => simp
  | cons file files ih =>
    rw [List.foldl_cons, ih, mem_related_attach, List.mem_cons]
    tauto

theorem tidy_foldl_detach {table : List (String × List String)} (tidy : Tidy table)
    (root : String) (files : List String) : Tidy (files.foldl (detach root) table) := by
  induction files generalizing table with
  | nil => exact tidy
  | cons file files ih => exact ih (tidy_detach tidy root file)

theorem tidy_foldl_attach {table : List (String × List String)} (tidy : Tidy table)
    (root : String) (files : List String) : Tidy (files.foldl (attach root) table) := by
  induction files generalizing table with
  | nil => exact tidy
  | cons file files ih => exact ih (tidy_attach tidy root file)

/-! ## The invariant -/

theorem mem_distinct {name : String} {names : List String} :
    name ∈ distinct names ↔ name ∈ names := by
  unfold distinct
  induction names with
  | nil => rfl
  | cons head tail ih =>
    rw [List.foldr_cons, List.mem_cons, ← ih]
    split
    · next present =>
      have present := List.contains_iff_mem.1 present
      exact ⟨Or.inr, fun h => h.elim (fun same => same ▸ present) id⟩
    · exact List.mem_cons

theorem nodup_distinct (names : List String) : (distinct names).Nodup := by
  unfold distinct
  induction names with
  | nil => exact List.nodup_nil
  | cons head tail ih =>
    rw [List.foldr_cons]
    split
    · exact ih
    · next absent =>
      exact List.nodup_cons.2 ⟨fun present => absent (List.contains_iff_mem.2 present), ih⟩

/-- Both directions of an index hold the same pairs, and no file is kept without dependents. -/
structure Indexed (d : Dependencies) : Prop where
  tidy : Tidy d.dependents
  reverse : ∀ file root, root ∈ related d.dependents file ↔ file ∈ related d.edges root

theorem indexed_empty : Indexed empty where
  tidy := ⟨List.nodup_nil, fun _ member => by cases member⟩
  reverse _ _ := by simp [related, empty]

theorem Indexed.replace {d : Dependencies} (indexed : Indexed d) (root : String)
    (files : List String) : Indexed (d.replace root files) where
  tidy := tidy_foldl_attach (tidy_foldl_detach indexed.tidy root _) root _
  reverse file name := by
    change name ∈ related (List.foldl (attach root) (List.foldl (detach root) d.dependents
      ((related d.edges root).filter _)) _) file ↔ file ∈ related (Table.put root _ d.edges) name
    rw [mem_foldl_attach, mem_foldl_detach, related_put, indexed.reverse]
    by_cases same : name = root
    · subst same
      simp only [List.mem_filter, Bool.not_eq_true', List.contains_eq_mem, decide_eq_false_iff_not,
        and_true, if_true]
      tauto
    · simp [same]

theorem Indexed.forget {base : Path} {d : Dependencies} (indexed : Indexed d) (root : String) :
    Indexed (d.forget base root) where
  tidy := (indexed.replace (normalize base root) []).tidy
  reverse file name := by
    have reverse := (indexed.replace (normalize base root) []).reverse file name
    refine reverse.trans ?_
    change file ∈ related (Table.put _ [] d.edges) name ↔
      file ∈ related (Table.erase _ (Table.put _ [] d.edges)) name
    rw [related_erase, related_put]
    split <;> rfl

/-- What depends on a file is recorded. -/
theorem Indexed.isSome_of_mem_dependentsOf {base : Path} {d : Dependencies} (indexed : Indexed d)
    {file root : String} (listed : root ∈ d.dependentsOf base file) :
    (d.edges.lookup root).isSome := by
  have edge : _ ∈ related d.edges root := (indexed.reverse _ root).1 listed
  unfold related at edge
  cases found : d.edges.lookup root with
  | none => simp [found] at edge
  | some files => rfl

/-- Every operation keeps the invariant. -/
theorem Indexed.apply {d : Dependencies} (indexed : Indexed d) (base : Path)
    (operation : Operation) : Indexed (d.apply base operation) := by
  cases operation with
  | record root files => exact indexed.replace _ _
  | forget root => exact indexed.forget root
  | clear => exact indexed_empty

theorem run_snoc (base : Path) (operations : List Operation) (operation : Operation) :
    run base (operations ++ [operation]) = (run base operations).apply base operation := by
  simp [run]

theorem indexed_run (base : Path) (operations : List Operation) :
    Indexed (run base operations) := by
  induction operations using List.reverseRecOn with
  | nil => exact indexed_empty
  | append_singleton operations operation ih =>
    rw [run_snoc]
    exact ih.apply base operation

/-! ## What is recorded -/

/-- What a record of some files keeps for a root. -/
def kept (base : Path) (root : String) (files : List String) : List String :=
  distinct ((files.map (normalize base)).filter (· ≠ root))

theorem mem_kept {base : Path} {root file : String} {files : List String} :
    file ∈ kept base root files ↔ file ∈ files.map (normalize base) ∧ file ≠ root := by
  rw [kept, mem_distinct, List.mem_filter, decide_eq_true_eq]

theorem lookup_edges_record (base : Path) (d : Dependencies) (name : String) (files : List String)
    (root : String) : (d.record base name files).edges.lookup root =
      if normalize base name = root then some (kept base root files)
      else d.edges.lookup root := by
  change (Table.put (normalize base name) (kept base (normalize base name) files)
    d.edges).lookup root = _
  split
  · next same => rw [same, Table.lookup_put_self]
  · next other => rw [Table.lookup_put_of_ne (Ne.symm other)]

theorem lookup_edges_forget (base : Path) (d : Dependencies) (name root : String) :
    (d.forget base name).edges.lookup root =
      if normalize base name = root then none else d.edges.lookup root := by
  change (Table.erase (normalize base name) (d.record base name []).edges).lookup root = _
  split
  · next same => rw [same, Table.lookup_erase_self]
  · next other => rw [Table.lookup_erase_of_ne (Ne.symm other), lookup_edges_record, if_neg other]

/-- An operation keeps what is recorded for a root unless it supersedes it. -/
theorem lookup_edges_apply {base : Path} {operation : Operation} {root : String}
    (other : ¬ operation.supersedes base root) (d : Dependencies) :
    (d.apply base operation).edges.lookup root = d.edges.lookup root := by
  cases operation with
  | record name files => exact (lookup_edges_record base d name files root).trans (if_neg other)
  | forget name => exact (lookup_edges_forget base d name root).trans (if_neg other)
  | clear => exact absurd trivial other

theorem lookup_edges_run (base : Path) (operations : List Operation) (root : String)
    (names : List String) :
    (run base operations).edges.lookup root = some names ↔
      ∃ files, LastRecord base operations root files ∧ names = kept base root files := by
  induction operations using List.reverseRecOn with
  | nil =>
    constructor
    · intro found
      cases found
    · rintro ⟨files, last, -⟩
      exact absurd last (not_lastRecord_nil base root files)
  | append_singleton operations operation ih =>
    rw [run_snoc]
    by_cases superseded : operation.supersedes base root
    · simp only [lastRecord_snoc, superseded, not_true, false_and, or_false]
      cases operation with
      | record name files =>
        change normalize base name = root at superseded
        refine Iff.trans (Eq.congr_left (lookup_edges_record base _ name files root)) ?_
        rw [if_pos superseded]
        constructor
        · intro found
          cases found
          exact ⟨files, ⟨name, rfl, superseded⟩, rfl⟩
        · rintro ⟨_, ⟨_, same, -⟩, rfl⟩
          cases same
          rfl
      | forget name =>
        change normalize base name = root at superseded
        refine Iff.trans (Eq.congr_left (lookup_edges_forget base _ name root)) ?_
        rw [if_pos superseded]
        simp
      | clear => simp [apply, empty]
    · rw [lookup_edges_apply superseded, ih]
      refine exists_congr fun files => and_congr_left fun _ => ?_
      rw [lastRecord_snoc]
      refine ⟨fun last => Or.inr ⟨superseded, last⟩, ?_⟩
      rintro (⟨name, rfl, same⟩ | ⟨-, last⟩)
      · exact absurd same superseded
      · exact last

theorem mem_edges_run (base : Path) (operations : List Operation) (root file : String) :
    file ∈ related (run base operations).edges root ↔
      file ≠ root ∧ ∃ files, LastRecord base operations root files ∧
        file ∈ files.map (normalize base) := by
  have recorded := lookup_edges_run base operations root
  constructor
  · intro member
    cases found : (run base operations).edges.lookup root with
    | none => simp [related, found] at member
    | some names =>
      obtain ⟨files, last, rfl⟩ := (recorded names).1 found
      rw [related, found, Option.getD_some, mem_kept] at member
      exact ⟨member.2, files, last, member.1⟩
  · rintro ⟨other, files, last, member⟩
    rw [related, (recorded _).2 ⟨files, last, rfl⟩, Option.getD_some, mem_kept]
    exact ⟨member, other⟩

theorem size_run (base : Path) (operations : List Operation) :
    Set.encard {file | ∃ root, file ≠ root ∧ ∃ files, LastRecord base operations root files ∧
      file ∈ files.map (normalize base)} = (run base operations).size := by
  have indexed := indexed_run base operations
  have inUse : {file | ∃ root, file ≠ root ∧ ∃ files, LastRecord base operations root files ∧
      file ∈ files.map (normalize base)} =
        ((Table.keys (run base operations).dependents).toFinset : Set String) := by
    ext file
    simp only [Set.mem_ofPred_eq, List.coe_toFinset, indexed.tidy.mem_keys_iff, indexed.reverse,
      mem_edges_run]
  rw [inUse, Set.encard_coe_eq_coe_finsetCard, List.toFinset_card_of_nodup indexed.tidy.keys]
  simp [size, Table.keys]

/-- After any operations the index answers from the last records alone: the dependents of a file
are the other roots whose last record lists it, the dependencies of a root are what its last record
lists, a root is present while it has a last record, no file is stored without dependents, the size
counts the files in use, and an operation leaves alone what it does not supersede. -/
theorem run_indexes_history (base : Path) (operations : List Operation) :
    (∀ file root, root ∈ (run base operations).dependentsOf base file ↔
      root ≠ normalize base file ∧ ∃ files, LastRecord base operations root files ∧
        normalize base file ∈ files.map (normalize base)) ∧
    (∀ file, ((run base operations).dependentsOf base file).Nodup) ∧
    (∀ root file, file ∈ (run base operations).dependenciesOf base root ↔
      file ≠ normalize base root ∧ ∃ files, LastRecord base operations (normalize base root) files ∧
        file ∈ files.map (normalize base)) ∧
    (∀ root, ((run base operations).dependenciesOf base root).Nodup) ∧
    (∀ root, (run base operations).contains base root = true ↔
      ∃ files, LastRecord base operations (normalize base root) files) ∧
    (∀ e ∈ (run base operations).dependents, e.2 ≠ []) ∧
    Set.encard {file | ∃ root, file ≠ root ∧ ∃ files, LastRecord base operations root files ∧
      file ∈ files.map (normalize base)} = (run base operations).size ∧
    ∀ operation root, ¬ operation.supersedes base (normalize base root) →
      let after := (run base operations).apply base operation
      after.dependenciesOf base root = (run base operations).dependenciesOf base root ∧
      after.contains base root = (run base operations).contains base root ∧
      ∀ file, normalize base root ∈ after.dependentsOf base file ↔
        normalize base root ∈ (run base operations).dependentsOf base file := by
  have indexed := indexed_run base operations
  refine ⟨?_, ?_, ?_, ?_, ?_, ?_, ?_, ?_⟩
  · intro file root
    refine (indexed.reverse _ _).trans ((mem_edges_run base operations root _).trans ?_)
    rw [ne_comm]
  · exact fun file => indexed.tidy.related_nodup _
  · exact fun root file => mem_edges_run base operations _ file
  · intro root
    unfold dependenciesOf
    cases found : (run base operations).edges.lookup (normalize base root) with
    | none => exact List.nodup_nil
    | some names =>
      obtain ⟨files, -, rfl⟩ := (lookup_edges_run base operations _ names).1 found
      exact nodup_distinct _
  · intro root
    simp only [contains, Option.isSome_iff_exists, lookup_edges_run]
    exact ⟨fun ⟨_, files, last, _⟩ => ⟨files, last⟩, fun ⟨files, last⟩ => ⟨_, files, last, rfl⟩⟩
  · exact fun e member => (indexed.tidy.filled e member).1
  · exact size_run base operations
  · intro operation root other after
    have same := lookup_edges_apply other (run base operations)
    have indexed' := indexed.apply base operation
    refine ⟨by simp only [dependenciesOf, after, same], by simp only [contains, after, same], ?_⟩
    intro file
    refine (indexed'.reverse _ _).trans (Iff.trans ?_ (indexed.reverse _ _).symm)
    rw [related, related, same]

end Folio.Dependencies
