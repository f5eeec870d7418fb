/-!
# Ordered tables

A table is a list of keys with their values in the order in which the keys came. `put` keeps the
place of a key that is already there.
-/

namespace Folio.Table

variable {κ α : Type} [DecidableEq κ]

/-- Gives a key a value, in place if the key is there and at the end if not. -/
def put (key : κ) (value : α) : List (κ × α) → List (κ × α)
  | [] => [(key, value)]
  | (k, v) :: rest => if k = key then (key, value) :: rest else (k, v) :: put key value rest

def erase (key : κ) (table : List (κ × α)) : List (κ × α) :=
  table.filter (·.1 ≠ key)

def keys (table : List (κ × α)) : List κ :=
  table.map (·.1)

/-- Whether two tables give the same keys the same values, in whatever order. -/
def same [DecidableEq α] (a b : List (κ × α)) : Bool :=
  a.length == b.length && a.all fun e => b.lookup e.1 == some e.2

theorem lookup_put_self (key : κ) (value : α) (table : List (κ × α)) :
    (put key value table).lookup key = some value := by
  induction table with
  | nil => simp [put]
  | cons e rest ih =>
    obtain ⟨k, v⟩ := e
    unfold put
    split
    · simp
    · next h => simp [List.lookup_cons, beq_eq_false_iff_ne.2 (Ne.symm h), ih]

theorem lookup_put_of_ne {key other : κ} (h : other ≠ key) (value : α) (table : List (κ × α)) :
    (put key value table).lookup other = table.lookup other := by
  induction table with
  | nil => simp [put, List.lookup_cons, beq_eq_false_iff_ne.2 h]
  | cons e rest ih =>
    obtain ⟨k, v⟩ := e
    unfold put
    split
    · next hk => subst hk; simp [List.lookup_cons, beq_eq_false_iff_ne.2 h]
    · simp [List.lookup_cons, ih]

theorem lookup_erase_self (key : κ) (table : List (κ × α)) :
    (erase key table).lookup key = none := by
  rw [List.lookup_eq_none_iff]
  intro e member
  have other : e.1 ≠ key := of_decide_eq_true (List.mem_filter.1 member).2
  exact bne_iff_ne.2 other.symm

theorem lookup_erase_of_ne {key other : κ} (h : other ≠ key) (table : List (κ × α)) :
    (erase key table).lookup other = table.lookup other := by
  induction table with
  | nil => rfl
  | cons e rest ih =>
    obtain ⟨k, v⟩ := e
    by_cases hk : k = key
    · subst hk
      simpa [erase, List.lookup_cons, beq_eq_false_iff_ne.2 h] using ih
    · have kept : erase key ((k, v) :: rest) = (k, v) :: erase key rest := by
        simp [erase, hk]
      rw [kept, List.lookup_cons, List.lookup_cons, ih]

theorem mem_keys_iff {key : κ} {table : List (κ × α)} :
    key ∈ keys table ↔ (table.lookup key).isSome := by
  rw [List.lookup_isSome_iff]
  constructor
  · intro member
    obtain ⟨e, he, rfl⟩ := List.mem_map.1 member
    exact ⟨e, he, beq_self_eq_true _⟩
  · rintro ⟨e, he, same⟩
    rw [eq_of_beq same]
    exact List.mem_map_of_mem he

theorem keys_put_of_mem {key : κ} {table : List (κ × α)} (member : key ∈ keys table) (value : α) :
    keys (put key value table) = keys table := by
  induction table with
  | nil => cases member
  | cons e rest ih =>
    obtain ⟨k, v⟩ := e
    by_cases hk : k = key
    · simp [put, keys, hk]
    · have later : key ∈ keys rest := by
        rcases List.mem_cons.1 member with same | later
        · exact absurd same.symm hk
        · exact later
      simpa [put, keys, hk] using ih later

theorem keys_put_of_not_mem {key : κ} {table : List (κ × α)} (fresh : key ∉ keys table)
    (value : α) : keys (put key value table) = keys table ++ [key] := by
  induction table with
  | nil => rfl
  | cons e rest ih =>
    obtain ⟨k, v⟩ := e
    obtain ⟨other, later⟩ := not_or.1 (mt List.mem_cons.2 fresh)
    simpa [put, keys, Ne.symm other] using ih later

theorem nodup_keys_put {table : List (κ × α)} (nodup : (keys table).Nodup) (key : κ) (value : α) :
    (keys (put key value table)).Nodup := by
  by_cases member : key ∈ keys table
  · rwa [keys_put_of_mem member]
  · rw [keys_put_of_not_mem member]
    exact List.nodup_append.2 ⟨nodup, by simp, by simpa using fun a h => ne_of_mem_of_not_mem h member⟩

theorem nodup_keys_erase {table : List (κ × α)} (nodup : (keys table).Nodup) (key : κ) :
    (keys (erase key table)).Nodup :=
  nodup.sublist (List.Sublist.map _ List.filter_sublist)

theorem nodup_keys_foldl_put {β : Type} (name : β → κ) (value : β → α) (entries : List β)
    {table : List (κ × α)} (nodup : (keys table).Nodup) :
    (keys (entries.foldl (fun t e => put (name e) (value e) t) table)).Nodup := by
  induction entries generalizing table with
  | nil => exact nodup
  | cons e rest ih => exact ih (nodup_keys_put nodup _ _)

/-- Of the entries put under a key the last one counts. -/
theorem lookup_foldl_put {β : Type} (name : β → κ) (value : β → α) (entries : List β)
    (table : List (κ × α)) (key : κ) :
    (entries.foldl (fun t e => put (name e) (value e) t) table).lookup key =
      ((entries.reverse.find? (name · = key)).map value).or (table.lookup key) := by
  induction entries generalizing table with
  | nil => rfl
  | cons e rest ih =>
    rw [List.foldl_cons, ih, List.reverse_cons, List.find?_append]
    cases later : rest.reverse.find? (name · = key) with
    | some => rfl
    | none =>
      by_cases same : name e = key
      · subst same
        simp [lookup_put_self]
      · simp [lookup_put_of_ne (Ne.symm same), same]

theorem lookup_foldl_put_of_nodup {entries : List (κ × α)} (nodup : (keys entries).Nodup)
    (table : List (κ × α)) (key : κ) :
    (entries.foldl (fun t e => put e.1 e.2 t) table).lookup key =
      (entries.lookup key).or (table.lookup key) := by
  induction entries generalizing table with
  | nil => rfl
  | cons e rest ih =>
    obtain ⟨k, v⟩ := e
    obtain ⟨fresh, nodup⟩ := List.nodup_cons.1 nodup
    rw [List.foldl_cons, ih nodup]
    by_cases same : key = k
    · subst same
      have missing : rest.lookup key = none := Option.not_isSome_iff_eq_none.1 (mt mem_keys_iff.2 fresh)
      simp [missing, lookup_put_self]
    · rw [lookup_put_of_ne same, List.lookup_cons, beq_eq_false_iff_ne.2 same]

end Folio.Table
