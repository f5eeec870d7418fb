import Folio.Build.State
import Folio.Proofs.Dependency
import Folio.Proofs.Path
import Mathlib.Data.List.Infix

/-!
# States that their journal accounts for

In a `Coherent` state the fingerprints and the dependency index are those that the journal tells of:
a path resolves to where the journal last published it, and what a recorded source looked up is
among its dependencies.
-/

namespace Folio.Build

open Dependencies

/-! ## Journals -/

/-- Some names are what their paths resolved to at a moment. -/
def Resolved (moment : Journal) (names : Names) : Prop :=
  ∀ n ∈ names, n.2 = moment.resolve n.1

namespace Journal

theorem resolve_append {new : Journal} {path : String}
    (unpublished : ∀ physical, .published path physical ∉ new) (old : Journal) :
    resolve (new ++ old) path = old.resolve path := by
  induction new with
  | nil => rfl
  | cons event new ih =>
    have rest := ih fun physical member => unpublished physical (List.mem_cons_of_mem _ member)
    cases event with
    | made kind source names => exact rest
    | published other physical =>
      have different : other ≠ path := by
        rintro rfl
        exact unpublished physical (List.mem_cons_self ..)
      simpa only [List.cons_append, resolve, if_neg different] using rest

/-- An event of a journal in two parts is one of the newer part or of the older. -/
theorem append_eq_append_cons {new old later earlier : Journal} {event : Event}
    (split : new ++ old = later ++ event :: earlier) :
    (∃ before, new = later ++ event :: before ∧ earlier = before ++ old) ∨
      ∃ after, later = new ++ after ∧ old = after ++ event :: earlier := by
  rcases List.append_eq_append_iff.1 split with ⟨after, newer, older⟩ | ⟨rest, newer, older⟩
  · exact Or.inr ⟨after, newer, older⟩
  · cases rest with
    | nil => exact Or.inr ⟨[], by simp [newer], by simpa using older.symm⟩
    | cons head before =>
      obtain ⟨rfl, rfl⟩ := List.cons_eq_cons.1 older
      exact Or.inl ⟨before, newer, rfl⟩

/-- A path that resolves to something else than before was published in between. -/
theorem exists_published {new old : Journal} {path : String}
    (changed : resolve (new ++ old) path ≠ old.resolve path) :
    ∃ physical, .published path physical ∈ new := by
  by_contra none
  exact changed (resolve_append (fun physical member => none ⟨physical, member⟩) old)

theorem last?_append (new old : Journal) (source : String) :
    last? (new ++ old) source = (new.last? source).or (old.last? source) := by
  induction new with
  | nil => rfl
  | cons event new ih =>
    cases event with
    | published path physical => exact ih
    | made kind other names =>
      simp only [List.cons_append, last?]
      split
      · rfl
      · exact ih

theorem exists_of_last? {j : Journal} {source : String} {kind : Kind} {names : Names}
    (last : j.last? source = some (kind, names)) :
    ∃ later earlier : Journal, j = later ++ .made kind source names :: earlier ∧
      later.last? source = none := by
  induction j with
  | nil => cases last
  | cons event j ih =>
    cases event with
    | published path physical =>
      obtain ⟨later, earlier, rfl, none⟩ := ih last
      exact ⟨.published path physical :: later, earlier, rfl, none⟩
    | made other name others =>
      simp only [last?] at last
      split at last
      · next same =>
        cases last
        subst same
        exact ⟨[], j, rfl, rfl⟩
      · next different =>
        obtain ⟨later, earlier, rfl, none⟩ := ih last
        exact ⟨.made other name others :: later, earlier, rfl, (if_neg different).trans none⟩

theorem last?_eq_none_iff {j : Journal} {source : String} :
    j.last? source = none ↔ ∀ kind names, .made kind source names ∉ j := by
  induction j with
  | nil => simp [last?]
  | cons event j ih =>
    cases event with
    | published path physical => simpa [last?] using ih
    | made kind other names =>
      simp only [last?]
      split
      · next same =>
        subst same
        exact ⟨fun h => (Option.some_ne_none _ h).elim, fun h => absurd (List.mem_cons_self ..) (h kind names)⟩
      · next different => simpa [Ne.symm different] using ih

end Journal

/-! ## Names resolved in time -/

/-- What is made after `old` was given names that its paths resolved to in time: at a moment that
stands in the relation `R` to the journal just before the source, if at all, was published. -/
def Given (R : Journal → Journal → Prop) (old : Journal) : Journal → Prop
  | [] => True
  | .published .. :: rest => Given R old rest
  | .made _ _ names :: rest => Given R old rest ∧ ∃ moment, Resolved moment names ∧
      (R moment (rest ++ old) ∨
        ∃ path physical before, rest = .published path physical :: before ∧ R moment (before ++ old))

theorem Given.append {R : Journal → Journal → Prop} {old first second : Journal}
    (later : Given R (first ++ old) second) (earlier : Given R old first) :
    Given R old (second ++ first) := by
  induction second with
  | nil => exact earlier
  | cons event second ih =>
    cases event with
    | published path physical => exact ih later
    | made kind source names =>
      obtain ⟨rest, moment, resolved, near⟩ := later
      refine ⟨ih rest, moment, resolved, ?_⟩
      rcases near with near | ⟨path, physical, before, rfl, near⟩
      · exact Or.inl ((List.append_assoc second first old).symm ▸ near)
      · exact Or.inr ⟨path, physical, before ++ first, rfl,
          (List.append_assoc before first old).symm ▸ near⟩

theorem Given.mono {R S : Journal → Journal → Prop} (weaker : ∀ moment j, R moment j → S moment j)
    {old new : Journal} (given : Given R old new) : Given S old new := by
  induction new with
  | nil => trivial
  | cons event new ih =>
    cases event with
    | published path physical => exact ih given
    | made kind source names =>
      obtain ⟨rest, moment, resolved, near⟩ := given
      exact ⟨ih rest, moment, resolved, near.imp (weaker _ _) fun ⟨path, physical, before, eq, near⟩ =>
        ⟨path, physical, before, eq, weaker _ _ near⟩⟩

theorem Given.of_mem {R : Journal → Journal → Prop} {old later earlier : Journal} {kind : Kind}
    {source : String} {names : Names}
    (given : Given R old (later ++ .made kind source names :: earlier)) :
    ∃ moment, Resolved moment names ∧ (R moment (earlier ++ old) ∨
      ∃ path physical before, earlier = .published path physical :: before ∧
        R moment (before ++ old)) := by
  induction later with
  | nil => exact given.2
  | cons event later ih =>
    cases event with
    | published path physical => exact ih given
    | made => exact ih given.1

/-! ## Coherent states -/

/-- The file behind a looked-up path, by its name in the dependency index. -/
def State.fileName (s : State) (path : String) : String :=
  normalize s.base (s.layout.outputFile path).text

/-- The fingerprints and the dependency index are those that the journal tells of. -/
structure Coherent (s : State) : Prop where
  indexed : Indexed s.dependencies
  resolves : ∀ path, s.store.resolve path = s.journal.resolve path
  /-- Without digests nothing is recorded. -/
  unrecorded : s.store.enabled = false → s.store.records = []
  named : ∀ source files, s.dependencies.edges.lookup source = some files →
    ∃ rest, source.toList = '/' :: rest
  made : ∀ source files, s.dependencies.edges.lookup source = some files →
    ∃ kind names, s.journal.last? source = some (kind, names) ∧
      ∀ n ∈ names, s.fileName n.1 ∈ files ∨ s.fileName n.1 = source

/-! ## Stale sources -/

/-- A recorded source was last given another name for a path than the path has now. The path is not
the one by which the source itself is known. -/
structure IsStale (s : State) (kind : Kind) (source : String) (n : String × String) : Prop where
  recorded : (s.dependencies.edges.lookup source).isSome
  given : ∃ names, s.journal.last? source = some (kind, names) ∧ n ∈ names
  changed : n.2 ≠ s.journal.resolve n.1
  other : s.fileName n.1 ≠ source

/-- The names for which a source is stale. -/
def State.staleNames (s : State) (kind : Kind) (source : String) : Names :=
  match s.dependencies.edges.lookup source, s.journal.last? source with
  | some _, some (last, names) =>
    if last = kind then
      names.filter fun n => n.2 ≠ s.journal.resolve n.1 ∧ s.fileName n.1 ≠ source
    else []
  | _, _ => []

theorem mem_staleNames {s : State} {kind : Kind} {source : String} {n : String × String} :
    n ∈ s.staleNames kind source ↔ IsStale s kind source n := by
  unfold State.staleNames
  constructor
  · intro member
    split at member
    · next files last names recorded made =>
      split at member
      · next same =>
        subst same
        obtain ⟨named, stale⟩ := List.mem_filter.1 member
        obtain ⟨changed, other⟩ := of_decide_eq_true stale
        exact ⟨by rw [recorded]; rfl, ⟨names, made, named⟩, changed, other⟩
      · cases member
    · cases member
  · rintro ⟨recorded, ⟨names, made, named⟩, changed, other⟩
    obtain ⟨files, recorded⟩ := Option.isSome_iff_exists.1 recorded
    simp only [recorded, made, if_true]
    exact List.mem_filter.2 ⟨named, decide_eq_true ⟨changed, other⟩⟩

/-! ## Unchanged parts -/

/-- States that differ at most in their files, routes and log. -/
structure Alike (s t : State) : Prop where
  base : t.base = s.base
  layout : t.layout = s.layout
  dependencies : t.dependencies = s.dependencies
  store : t.store = s.store
  journal : t.journal = s.journal

namespace Alike

theorem refl (s : State) : Alike s s :=
  ⟨rfl, rfl, rfl, rfl, rfl⟩

theorem trans {s t u : State} (first : Alike s t) (second : Alike t u) : Alike s u :=
  ⟨second.base.trans first.base, second.layout.trans first.layout,
    second.dependencies.trans first.dependencies, second.store.trans first.store,
    second.journal.trans first.journal⟩

theorem published {s t : State} (alike : Alike s t) (path : String) (content : Bytes) :
    Alike (s.published path content) (t.published path content) where
  base := alike.base
  layout := alike.layout
  dependencies := alike.dependencies
  store := by simp only [State.published, alike.store]
  journal := by simp only [State.published, alike.store, alike.journal]

theorem made {s t : State} (alike : Alike s t) (kind : Kind) (source : Path)
    (files : List String) (names : Names) :
    Alike (s.made kind source files names) (t.made kind source files names) where
  base := alike.base
  layout := alike.layout
  dependencies := by
    simp only [State.made, State.lookedUp, alike.dependencies, alike.base, alike.layout]
  store := alike.store
  journal := by simp only [State.made, alike.base, alike.journal]

theorem named {s t : State} (alike : Alike s t) (paths : List String) :
    t.named paths = s.named paths := by
  simp only [State.named, alike.store]

theorem coherent {s t : State} (alike : Alike s t) (coherent : Coherent s) : Coherent t where
  indexed := alike.dependencies ▸ coherent.indexed
  resolves path := by rw [alike.store, alike.journal, coherent.resolves]
  unrecorded := alike.store ▸ coherent.unrecorded
  named := alike.dependencies ▸ coherent.named
  made source files recorded := by
    rw [alike.dependencies] at recorded
    simpa only [State.fileName, alike.journal, alike.base, alike.layout] using
      coherent.made source files recorded

end Alike

namespace Coherent

variable {s : State}

theorem with_files (coherent : Coherent s) (files : FileTree) :
    Coherent { s with files } :=
  (show Alike s { s with files } from ⟨rfl, rfl, rfl, rfl, rfl⟩).coherent coherent

theorem resolved_named (coherent : Coherent s) (paths : List String) :
    Resolved s.journal (s.named paths) := by
  intro n member
  obtain ⟨path, -, rfl⟩ := List.mem_map.1 member
  exact coherent.resolves path

theorem published (coherent : Coherent s) (path : String) (content : Bytes) :
    Coherent (s.published path content) where
  indexed := coherent.indexed
  resolves other := by
    have before := coherent.resolves other
    simp only [State.published, Journal.resolve]
    cases enabled : s.store.enabled with
    | false =>
      have plain : s.store.resolve other = other := by
        simp [Asset.Store.resolve, Asset.Store.get?, coherent.unrecorded enabled]
      simp only [Asset.Store.publish, Asset.Store.physical, enabled, Bool.false_eq_true, if_false]
      split
      · next same => rw [plain, same]
      · exact before
    | true =>
      have resolves : (s.store.publish path content).resolve other =
          if path = other then s.store.physical path content else s.store.resolve other := by
        simp only [Asset.Store.publish, enabled, if_true, Asset.Store.resolve, Asset.Store.get?]
        split
        · next same => rw [same, Table.lookup_put_self, Option.getD_some]
        · next different => rw [Table.lookup_put_of_ne (Ne.symm different)]
      rw [resolves, before]
  unrecorded disabled := by
    have disabled : s.store.enabled = false := by
      simp only [State.published, Asset.Store.publish] at disabled
      split at disabled <;> assumption
    simp only [State.published, Asset.Store.publish, disabled, Bool.false_eq_true, if_false]
    exact coherent.unrecorded disabled
  named := coherent.named
  made := coherent.made

theorem made_source (coherent : Coherent s) (kind : Kind) (source : Path) (files : List String)
    (names : Names) : Coherent (s.made kind source files names) where
  indexed := coherent.indexed.replace _ _
  resolves := coherent.resolves
  unrecorded := coherent.unrecorded
  named root recorded found := by
    simp only [State.made, lookup_edges_record] at found
    split at found
    · next same => exact same ▸ startsWith_normalize s.base source.text
    · exact coherent.named root recorded found
  made root recorded found := by
    simp only [State.made, lookup_edges_record] at found ⊢
    simp only [Journal.last?]
    split at found
    · next same =>
      cases found
      refine ⟨kind, names, if_pos same, fun n member => ?_⟩
      have looked : (s.layout.outputFile n.1).text ∈ files ++ s.lookedUp names :=
        List.mem_append_right _ (List.mem_map.2 ⟨n, member, rfl⟩)
      by_cases self : s.fileName n.1 = root
      · exact Or.inr self
      · exact Or.inl (mem_kept.2 ⟨List.mem_map_of_mem looked, self⟩)
    · next different =>
      rw [if_neg different]
      exact coherent.made root recorded found

/-- What a source looked up has it among its dependents, unless it is the source itself. -/
theorem mem_dependentsOf (coherent : Coherent s) {source : String} {kind : Kind} {names : Names}
    (recorded : (s.dependencies.edges.lookup source).isSome)
    (last : s.journal.last? source = some (kind, names)) {n : String × String} (member : n ∈ names)
    (other : s.fileName n.1 ≠ source) :
    source ∈ s.dependencies.dependentsOf s.base (s.layout.outputFile n.1).text := by
  obtain ⟨files, found⟩ := Option.isSome_iff_exists.1 recorded
  obtain ⟨kind', names', last', looked⟩ := coherent.made source files found
  rw [last] at last'
  cases last'
  have listed := (looked n member).resolve_right other
  refine (coherent.indexed.reverse _ source).2 ?_
  rwa [related, found, Option.getD_some]

end Coherent

end Folio.Build
