import Folio.Proofs.Route

/-!
# Overrides in a route table

A table has the root's helper and then the helpers of its entries in the order in which they first
come, each with the path of the last entry that has it. An entry overrides the last one before it with
the same helper; the notes tell of all overrides in order, and of nothing else (`tableOf_overrides`).
-/

namespace Folio

namespace Table

variable {κ α : Type} [DecidableEq κ]

theorem eraseDups_eq_self {keys : List κ} (nodup : keys.Nodup) : keys.eraseDups = keys := by
  induction keys with
  | nil => rfl
  | cons key keys ih =>
    obtain ⟨fresh, nodup⟩ := List.nodup_cons.1 nodup
    have others : keys.filter (fun k => !k == key) = keys :=
      List.filter_eq_self.2 fun k member => by simpa using ne_of_mem_of_not_mem member fresh
    rw [List.eraseDups_cons, others, ih nodup]

theorem removeAll_cons_of_mem {key : κ} {others : List κ} (known : key ∈ others) (keys : List κ) :
    keys.removeAll (key :: others) = keys.removeAll others := by
  refine List.filter_congr fun k _ => ?_
  rw [List.elem_cons]
  by_cases same : k = key
  · subst same
    simp [known]
  · simp [beq_eq_false_iff_ne.2 same]

theorem filter_removeAll (key : κ) (keys others : List κ) :
    (keys.removeAll others).filter (fun k => !k == key) = keys.removeAll (key :: others) := by
  rw [List.removeAll_cons]
  simp only [List.removeAll, List.filter_filter, Bool.and_comm]

/-- Keys stand in the order in which they first came. -/
theorem keys_foldl_put {β : Type} (name : β → κ) (value : β → α) (entries : List β)
    {table : List (κ × α)} (nodup : (keys table).Nodup) :
    keys (entries.foldl (fun t e => put (name e) (value e) t) table) =
      (keys table ++ entries.map name).eraseDups := by
  induction entries generalizing table with
  | nil => rw [List.map_nil, List.append_nil, eraseDups_eq_self nodup, List.foldl_nil]
  | cons e rest ih =>
    rw [List.foldl_cons, ih (nodup_keys_put nodup _ _), List.map_cons]
    by_cases member : name e ∈ keys table
    · rw [keys_put_of_mem member, List.eraseDups_append, List.eraseDups_append, List.cons_removeAll,
        if_neg (by simpa using member)]
    · rw [keys_put_of_not_mem member, List.append_assoc, List.singleton_append]

end Table

namespace Route

variable {before entries : List Entry}

/-! ## Overrides -/

/-- The entries that override one before them, each with the one that it overrides. `before` holds
earlier entries, the newest first. -/
def overridesFrom (before : List Entry) : List Entry → List (Entry × Entry)
  | [] => []
  | e :: rest =>
    ((before.find? (·.helper = e.helper)).map (e, ·)).toList ++ overridesFrom (e :: before) rest

def overrides (entries : List Entry) : List (Entry × Entry) :=
  overridesFrom [] entries

/-- The note on an entry that overrides another. -/
def noteOf (override : Entry × Entry) : String :=
  Draft.overrideNote override.1 override.2.source

theorem sublist_overridesFrom (before entries : List Entry) :
    ((overridesFrom before entries).map Prod.fst).Sublist entries := by
  induction entries generalizing before with
  | nil => exact .slnil
  | cons e rest ih =>
    rw [overridesFrom, List.map_append]
    cases before.find? (·.helper = e.helper) with
    | none => exact (ih _).cons e
    | some d => exact (ih _).cons_cons e

/-- The entries with one helper override each other in turn. -/
theorem filter_overridesFrom (before entries : List Entry) (helper : String) :
    (overridesFrom before entries).filter (·.1.helper = helper) =
      match before.find? (·.helper = helper) with
      | none => (entries.filter (·.helper = helper)).tail.zip (entries.filter (·.helper = helper))
      | some d => (entries.filter (·.helper = helper)).zip (d :: entries.filter (·.helper = helper)) := by
  induction entries generalizing before with
  | nil => cases before.find? (·.helper = helper) <;> rfl
  | cons e rest ih =>
    rw [overridesFrom, List.filter_append, ih, List.find?_cons]
    by_cases same : e.helper = helper
    · subst same
      cases before.find? (·.helper = e.helper) with
      | none => simp
      | some d => simp
    · have others : ((before.find? (·.helper = e.helper)).map (e, ·)).toList.filter
          (·.1.helper = helper) = [] := by
        cases before.find? (·.helper = e.helper) <;> simp [same]
      rw [others]
      simp [same]

/-- The entries that override none have the helpers that are new. -/
theorem length_overridesFrom (before entries : List Entry) :
    (overridesFrom before entries).length +
      ((entries.map Entry.helper).removeAll (before.map Entry.helper)).eraseDups.length =
        entries.length := by
  induction entries generalizing before with
  | nil => rfl
  | cons e rest ih =>
    have later := ih (e :: before)
    rw [List.map_cons] at later
    rw [overridesFrom, List.length_append, List.map_cons, List.length_cons, List.cons_removeAll]
    by_cases known : e.helper ∈ before.map Entry.helper
    · obtain ⟨d, found⟩ : ∃ d, before.find? (·.helper = e.helper) = some d := by
        obtain ⟨d, member, same⟩ := List.mem_map.1 known
        rw [← Option.isSome_iff_exists, List.find?_isSome]
        exact ⟨d, member, by simpa using same⟩
      rw [Table.removeAll_cons_of_mem known] at later
      rw [if_neg (by simpa using known), found]
      simp only [Option.map_some, Option.toList_some, List.length_singleton]
      omega
    · have none : before.find? (·.helper = e.helper) = none :=
        List.find?_eq_none.2 fun d member same =>
          known (List.mem_map.2 ⟨d, member, by simpa using same⟩)
      rw [← Table.filter_removeAll] at later
      rw [if_pos (by simpa using known), none, List.eraseDups_cons]
      simp only [Option.map_none, Option.toList_none, List.length_nil, List.length_cons]
      omega

/-! ## Notes -/

theorem notes_foldl_add {d : Draft} (known : ∀ helper, d.sources.lookup helper =
      (before.find? (·.helper = helper)).map Entry.source) (entries : List Entry) :
    (entries.foldl Draft.add d).notes =
      ((overridesFrom before entries).map noteOf).reverse ++ d.notes := by
  induction entries generalizing d before with
  | nil => rfl
  | cons e rest ih =>
    have after : ∀ helper, (d.add e).sources.lookup helper =
        ((e :: before).find? (·.helper = helper)).map Entry.source := by
      intro helper
      rw [List.find?_cons]
      by_cases same : e.helper = helper
      · subst same
        simp [Draft.add, Table.lookup_put_self]
      · simp [Draft.add, Table.lookup_put_of_ne (Ne.symm same), same, known helper]
    have noted : (d.add e).notes =
        (((before.find? (·.helper = e.helper)).map (e, ·)).toList.map noteOf).reverse ++ d.notes := by
      rw [Draft.add, known e.helper]
      cases before.find? (·.helper = e.helper) <;> rfl
    rw [List.foldl_cons, ih after, noted, overridesFrom, List.map_append, List.reverse_append,
      List.append_assoc]

theorem notes_tableOf (entries : List Entry) :
    (tableOf entries).2 = (overrides entries).map noteOf := by
  have noted := @notes_foldl_add [] .empty (fun _ => rfl) entries
  rw [tableOf, noted]
  simp [overrides, Draft.empty]

/-! ## Tables -/

/-- A table has the root's helper and those of its entries as they first come, each with the path of
its last entry. Its notes are on all overrides in order: there are as many as entries that are not the
first of their helper, and each entry overrides the one before it with that helper. -/
theorem tableOf_overrides (entries : List Entry) :
    Table.keys (tableOf entries).1 = (rootHelper :: entries.map Entry.helper).eraseDups ∧
    (∀ helper, (tableOf entries).1.lookup helper =
      ((entries.filter (·.helper = helper)).getLast?.map Entry.path).or
        (if helper = rootHelper then some "/" else none)) ∧
    (tableOf entries).2 = (overrides entries).map noteOf ∧
    (tableOf entries).2.length + (entries.map Entry.helper).eraseDups.length = entries.length ∧
    ((overrides entries).map Prod.fst).Sublist entries ∧
    ∀ helper, (overrides entries).filter (·.1.helper = helper) =
      (entries.filter (·.helper = helper)).tail.zip (entries.filter (·.helper = helper)) := by
  refine ⟨?_, fun helper => ?_, notes_tableOf entries, ?_, sublist_overridesFrom [] entries,
    filter_overridesFrom [] entries⟩
  · rw [tableOf, table_foldl_add, Table.keys_foldl_put _ _ _ (by decide)]
    rfl
  · have last : entries.reverse.find? (·.helper = helper) =
        (entries.filter (·.helper = helper)).getLast? := by
      rw [← List.head?_filter, List.filter_reverse, List.head?_reverse]
    rw [lookup_tableOf, last]
    congr 1
    by_cases root : helper = rootHelper
    · simp [Draft.empty, root]
    · simp [Draft.empty, List.lookup_cons, beq_eq_false_iff_ne.2 root, root]
  · have counted := length_overridesFrom [] entries
    rw [List.map_nil, List.removeAll_nil] at counted
    rw [notes_tableOf, List.length_map]
    exact counted

end Route

end Folio
