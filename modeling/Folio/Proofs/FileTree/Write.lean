import Folio.FileTree.Operation
import Folio.Proofs.FileTree.Walk
import Folio.Proofs.Invariant

/-!
# What writing a file does

A file written at a path that passes no link comes to lie there. Directories on the way to it may be
made, the temporary file beside it is gone, and all else stays (`write_ok`). Where a write stops no
directory, link or file is lost, whatever links are in the way (`write_persists`).
-/

namespace Folio.FileTree

variable {t t' t'' : FileTree} {p q d : Path}

/-! ## Entries -/

/-- The entries of a tree at the paths that pass a test. -/
def chosen (t : FileTree) (test : Path → Bool) : List (Path × Entry) :=
  t.entries.filter (test ·.1)

/-- The entries of a tree at a path and below. -/
def part (t : FileTree) (d : Path) : List (Path × Entry) :=
  t.chosen (·.isBelow d)

/-- The entries of a tree that are neither at a path nor below. -/
def without (t : FileTree) (d : Path) : List (Path × Entry) :=
  t.chosen (!·.isBelow d)

theorem filter_put {table : List (Path × Entry)} {test : Path → Bool} (outside : test p = false)
    (e : Entry) :
    (Table.put p e table).filter (fun x => test x.1) = table.filter fun x => test x.1 := by
  induction table with
  | nil => simp [Table.put, outside]
  | cons entry rest ih =>
    unfold Table.put
    split
    · next same =>
      rw [List.filter_cons_of_neg (by simp [outside]), List.filter_cons_of_neg (by simp [same, outside])]
    · rw [List.filter_cons, List.filter_cons, ih]

theorem lookup_filter {table : List (Path × Entry)} {test : Path → Bool} (inside : test p = true) :
    (table.filter fun x => test x.1).lookup p = table.lookup p := by
  induction table with
  | nil => rfl
  | cons entry rest ih =>
    obtain ⟨q, e⟩ := entry
    by_cases here : p = q
    · rw [List.filter_cons_of_pos (by simpa [← here] using inside)]
      simp [here]
    · have other : (p == q) = false := beq_eq_false_iff_ne.2 here
      rw [List.filter_cons]
      split <;> simp [List.lookup_cons, other, ih]

section Chosen

variable {test : Path → Bool}

theorem chosen_put (outside : test p = false) (e : Entry) :
    (t.put p e).chosen test = t.chosen test :=
  filter_put outside e

theorem chosen_erase (outside : test p = false) : (t.erase p).chosen test = t.chosen test := by
  unfold chosen erase Table.erase
  rw [List.filter_filter]
  refine List.filter_congr fun entry _ => ?_
  by_cases same : entry.1 = p
  · simp [same, outside]
  · simp [same]

/-- What lies at a path that passes a test is told by the entries of such paths. -/
theorem get?_eq_of_chosen (same : t'.chosen test = t.chosen test) (inside : test p = true) :
    t'.get? p = t.get? p := by
  have lookup (t : FileTree) : t.entries.lookup p = (t.chosen test).lookup p :=
    (@lookup_filter p t.entries test inside).symm
  unfold get?
  rw [lookup t, lookup t', same]

end Chosen

/-- What lies below a directory is told by its part of the tree. -/
theorem get?_eq_of_part (same : t'.part d = t.part d) (below : p.isBelow d = true) :
    t'.get? p = t.get? p :=
  @get?_eq_of_chosen _ _ _ (·.isBelow d) same below

theorem get?_erase_self (below : p ≠ Path.root) : (t.erase p).get? p = none := by
  simp [get?, erase, below, Table.lookup_erase_self]

theorem get?_erase_of_ne (other : q ≠ p) : (t.erase p).get? q = t.get? q := by
  simp [get?, erase, Table.lookup_erase_of_ne other]

theorem get?_put_cases {e e' : Entry} (found : (t.put p e).get? q = some e') :
    q = p ∧ e' = e ∨ t.get? q = some e' := by
  by_cases same : q = p
  · by_cases top : p = Path.root
    · subst same top
      exact Or.inr found
    · rw [same, get?_put_self top] at found
      exact Or.inl ⟨same, (Option.some.inj found).symm⟩
  · rw [get?_put_of_ne same] at found
    exact Or.inr found

/-- What is put where nothing was leaves all that was there. -/
theorem get?_put_of_free {e e' : Entry} (free : t.get? p = none) (found : t.get? q = some e') :
    (t.put p e).get? q = some e' := by
  rw [get?_put_of_ne, found]
  rintro rfl
  cases found.symm.trans free

theorem get?_of_erase {e : Entry} (found : (t.erase p).get? q = some e) : t.get? q = some e := by
  by_cases same : q = p
  · by_cases top : p = Path.root
    · rw [same, top] at found ⊢
      exact found
    · rw [same, get?_erase_self top] at found
      cases found
  · rwa [get?_erase_of_ne same] at found

theorem get?_prune_of_not (other : q.isBelow p = false) : (t.prune p).get? q = t.get? q := by
  have kept : (t.prune p).chosen (!·.isBelow p) = t.chosen (!·.isBelow p) := by
    unfold chosen prune
    rw [List.filter_filter]
    exact List.filter_congr fun entry _ => Bool.and_self _
  exact get?_eq_of_chosen kept (by simp [other])

theorem get?_prune_below (below : q.isBelow p = true) (other : q ≠ Path.root) :
    (t.prune p).get? q = none := by
  unfold get? prune
  rw [if_neg other, List.lookup_eq_none_iff]
  intro entry member
  have left := (List.mem_filter.1 member).2
  rw [bne_iff_ne]
  rintro rfl
  simp [below] at left

theorem get?_of_prune {e : Entry} (found : (t.prune p).get? q = some e) : t.get? q = some e := by
  cases below : q.isBelow p with
  | false => rwa [get?_prune_of_not below] at found
  | true =>
    by_cases top : q = Path.root
    · subst top
      exact found
    · rw [get?_prune_below below top] at found
      cases found

/-! ## Inversion -/

namespace Op

variable {α β : Type}

theorem bind_ok_iff {x : Op α} {f : α → Op β} {b : β} :
    (x >>= f) t = .ok b t'' ↔ ∃ a t', x t = .ok a t' ∧ f a t' = .ok b t'' := by
  change EStateM.bind x f t = _ ↔ _
  unfold EStateM.bind
  cases x t with
  | error e t₁ => simp
  | ok a t₁ =>
    constructor
    · intro ran
      exact ⟨a, t₁, rfl, ran⟩
    · rintro ⟨_, _, same, ran⟩
      cases same
      exact ran

theorem bind_error_iff {x : Op α} {f : α → Op β} {problem : FileProblem} :
    (x >>= f) t = .error problem t'' ↔
      x t = .error problem t'' ∨ ∃ a t', x t = .ok a t' ∧ f a t' = .error problem t'' := by
  change EStateM.bind x f t = _ ↔ _
  unfold EStateM.bind
  cases x t with
  | error e t₁ => simp
  | ok a t₁ =>
    constructor
    · intro ran
      exact Or.inr ⟨a, t₁, rfl, ran⟩
    · rintro (stop | ⟨_, _, same, ran⟩)
      · cases stop
      · cases same
        exact ran

theorem pure_ok_iff {a b : α} : (pure a : Op α) t = .ok b t' ↔ a = b ∧ t = t' := by
  change EStateM.Result.ok a t = _ ↔ _
  rw [EStateM.Result.ok.injEq]

theorem get_ok_iff {s : FileTree} : (get : Op FileTree) t = .ok s t' ↔ t = s ∧ t = t' := by
  change EStateM.Result.ok t t = _ ↔ _
  rw [EStateM.Result.ok.injEq]

theorem modify_ok_iff {f : FileTree → FileTree} {u : Unit} :
    (modify f : Op Unit) t = .ok u t' ↔ f t = t' := by
  change EStateM.Result.ok () (f t) = _ ↔ _
  rw [EStateM.Result.ok.injEq]
  exact and_iff_right rfl

theorem throw_ne_ok {e : FileProblem} {a : α} : (throw e : Op α) t ≠ .ok a t' := by
  change EStateM.Result.error e t ≠ _
  intro same
  cases same

theorem find_ok_iff {search : FileTree → Except FileProblem Path} :
    find search t = .ok p t' ↔ search t = .ok p ∧ t = t' := by
  unfold find
  cases search t <;> simp

theorem find_error {search : FileTree → Except FileProblem Path} {problem : FileProblem}
    (ran : find search t = .error problem t') : t' = t := by
  unfold find at ran
  cases found : search t <;> rw [found] at ran <;> cases ran
  rfl

/-- An attempt ends with what it tries, or where that stops. -/
theorem attempt_ok {x : Op α} {outcome : Except FileProblem α} (ran : attempt x t = .ok outcome t') :
    (∃ a, outcome = .ok a ∧ x t = .ok a t') ∨
      ∃ problem, outcome = .error problem ∧ x t = .error problem t' := by
  unfold attempt at ran
  split at ran
  · next found => cases ran; exact Or.inl ⟨_, rfl, found⟩
  · next found => cases ran; exact Or.inr ⟨_, rfl, found⟩

/-- An operation that may stop first goes on where it ends well. -/
theorem unless_ok {stops : Prop} [Decidable stops] {problem : FileProblem} {x : Op α} {a : α}
    (ran : (do
      if stops then throw problem
      x : Op α) t = .ok a t') : ¬ stops ∧ x t = .ok a t' := by
  dsimp only at ran
  split at ran
  · obtain ⟨_, _, stop, -⟩ := bind_ok_iff.1 ran
    exact absurd stop throw_ne_ok
  · next goes => exact ⟨goes, ran⟩

theorem unless_error {stops : Prop} [Decidable stops] {problem problem' : FileProblem} {x : Op α}
    (ran : (do
      if stops then throw problem
      x : Op α) t = .error problem' t') : t' = t ∨ x t = .error problem' t' := by
  dsimp only at ran
  split at ran
  · rcases bind_error_iff.1 ran with stop | ⟨_, _, stop, -⟩
    · cases stop
      exact Or.inl rfl
    · exact absurd stop throw_ne_ok
  · exact Or.inr ran

/-! ## Invariants -/

/-- Whether an operation keeps an invariant, however it ends. -/
abbrev Maintains (I : FileTree → Prop) (x : Op α) : Prop :=
  Keeps I (fun _ _ => True) (fun _ => True) x

section Invariants

variable {I : FileTree → Prop}

theorem maintains_find (search : FileTree → Except FileProblem Path) : Maintains I (find search) := by
  intro t start
  unfold find
  cases search t <;> exact ⟨start, trivial⟩

theorem maintains_attempt {x : Op α} (maintains : Maintains I x) : Maintains I (attempt x) := by
  intro t start
  unfold attempt
  cases ran : x t with
  | ok a t' => exact ⟨(maintains.ok start ran).1, trivial⟩
  | error problem t' => exact ⟨(maintains.error start ran).1, trivial⟩

theorem maintains_throw (problem : FileProblem) : Maintains I (throw problem : Op α) :=
  Keeps.throw fun _ _ => trivial

/-- An operation that may stop first is one that goes on, as far as invariants go. -/
theorem maintains_unless {stops : Prop} [Decidable stops] {problem : FileProblem} {x : Op α}
    (maintains : Maintains I x) :
    Maintains I (do
      if stops then throw problem
      x) := by
  dsimp only
  split
  · exact (maintains_throw problem).bind fun _ _ => maintains
  · exact maintains

theorem maintains_content (p : Path) : Maintains I (content p) := by
  refine (maintains_find _).bind fun q _ => .get_bind fun t _ => ?_
  split
  · exact .pure trivial
  · exact maintains_throw _
  · exact maintains_throw _

theorem maintains_unlessDirectory (problem : FileProblem) :
    Maintains I (do if !(← get).isDirectory p then throw problem) := by
  refine .get_bind fun t _ => ?_
  split
  · exact maintains_throw problem
  · exact .pure trivial

theorem maintains_ensureDirectory (make : Maintains I (makeDirectory p)) :
    Maintains I (ensureDirectory p) := by
  refine (maintains_attempt make).bind fun outcome _ => ?_
  cases outcome with
  | ok u => exact .pure trivial
  | error problem => exact maintains_unlessDirectory problem

theorem maintains_ensureDirectoriesFrom {names : List String}
    (make : ∀ q, Path.isBelow ⟨names.reverse⟩ q = true → Maintains I (makeDirectory q)) :
    Maintains I (ensureDirectoriesFrom names) := by
  induction names with
  | nil => exact .pure trivial
  | cons name above ih =>
    refine (maintains_attempt (make _ (Path.isBelow_refl _))).bind fun outcome _ => ?_
    have first : Maintains I (ensureDirectoriesFrom above) := by
      refine ih fun q upward => make q (Path.isBelow_trans ?_ upward)
      rw [List.reverse_cons]
      exact List.isPrefixOf_iff_prefix.2 (List.prefix_append ..)
    cases outcome with
    | ok u => exact .pure trivial
    | error problem =>
      cases problem with
      | missing =>
        exact first.bind fun _ _ => maintains_ensureDirectory (make _ (Path.isBelow_refl _))
      | _ => exact maintains_unlessDirectory _

/-- What is kept when a directory is made, at a path or above, is kept when all of them are. -/
theorem maintains_ensureDirectories
    (make : ∀ q, p.isBelow q = true → Maintains I (makeDirectory q)) :
    Maintains I (ensureDirectories p) :=
  maintains_ensureDirectoriesFrom (by rwa [List.reverse_reverse])

end Invariants

/-! ## Directories -/

/-- A directory is made where there was nothing. -/
theorem makeDirectory_place (ran : makeDirectory p t = .ok () t') :
    ∃ q, t.locate p = .ok q ∧ t.get? q = none ∧ t' = t.put q .directory := by
  obtain ⟨q, t₁, found, ran⟩ := bind_ok_iff.1 ran
  obtain ⟨located, rfl⟩ := find_ok_iff.1 found
  obtain ⟨_, _, got, ran⟩ := bind_ok_iff.1 ran
  obtain ⟨rfl, rfl⟩ := get_ok_iff.1 got
  obtain ⟨free, ran⟩ := unless_ok ran
  exact ⟨q, located, by simpa using free, (modify_ok_iff.1 ran).symm⟩

theorem makeDirectory_ok (proper : p.IsProper) (linkless : t.Linkless p.parent)
    (ran : makeDirectory p t = .ok () t') : t.get? p = none ∧ t' = t.put p .directory := by
  obtain ⟨q, located, made⟩ := makeDirectory_place ran
  cases locate_eq proper linkless located
  exact made

/-- Where a directory cannot be made nothing happens. -/
theorem makeDirectory_error {problem : FileProblem} (ran : makeDirectory p t = .error problem t') :
    t' = t := by
  rcases bind_error_iff.1 ran with failed | ⟨q, _, found, ran⟩
  · exact find_error failed
  · obtain ⟨-, rfl⟩ := find_ok_iff.1 found
    rcases bind_error_iff.1 ran with got | ⟨_, _, got, ran⟩
    · cases got
    · obtain ⟨rfl, rfl⟩ := get_ok_iff.1 got
      rcases unless_error ran with same | ran
      · exact same
      · cases ran

theorem maintains_makeDirectory {e : Entry} :
    Maintains (fun t => t.get? q = some e) (makeDirectory p) := by
  refine .intro (fun t _ t' found ran => ⟨?_, trivial⟩) fun t _ t' found ran =>
    ⟨makeDirectory_error ran ▸ found, trivial⟩
  obtain ⟨r, -, free, rfl⟩ := makeDirectory_place ran
  exact get?_put_of_free free found

end Op

/-- Whether a tree has become another in which directories were made at a path and above. -/
structure Grown (d : Path) (t t' : FileTree) : Prop where
  kept : ∀ q e, t.get? q = some e → t'.get? q = some e
  fresh : ∀ q e, t'.get? q = some e → t.get? q = some e ∨ e = .directory ∧ d.isBelow q = true
  chosen : ∀ test : Path → Bool,
    (∀ q, d.isBelow q = true → t.get? q = none → test q = false) → t'.chosen test = t.chosen test

namespace Grown

theorem refl (d : Path) (t : FileTree) : Grown d t t :=
  ⟨fun _ _ found => found, fun _ _ found => Or.inl found, fun _ _ => rfl⟩

theorem trans (one : Grown d t t') (two : Grown d t' t'') : Grown d t t'' where
  kept q e found := two.kept q e (one.kept q e found)
  fresh q e found := (two.fresh q e found).elim (one.fresh q e) Or.inr
  chosen test outside := by
    refine (two.chosen test fun q above free => outside q above ?_).trans (one.chosen test outside)
    cases there : t.get? q with
    | none => rfl
    | some e => cases free.symm.trans (one.kept q e there)

theorem mono (grown : Grown d t t') (below : p.isBelow d = true) : Grown p t t' where
  kept := grown.kept
  fresh q e found := (grown.fresh q e found).imp_right fun h => ⟨h.1, Path.isBelow_trans below h.2⟩
  chosen test outside := grown.chosen test fun q above => outside q (Path.isBelow_trans below above)

theorem hasLink (grown : Grown d t t') (link : t'.HasLink q) : t.HasLink q := by
  obtain ⟨target, found⟩ := link
  rcases grown.fresh q _ found with found | ⟨same, -⟩
  · exact ⟨target, found⟩
  · cases same

theorem linkless (grown : Grown d t t') (linkless : t.Linkless p) : t'.Linkless p :=
  fun q above link => linkless q above (grown.hasLink link)

theorem put (free : t.get? p = none) : Grown p t (t.put p .directory) := by
  have below : p ≠ Path.root := by
    rintro rfl
    simp [get?] at free
  refine ⟨fun q e found => ?_, fun q e found => ?_, fun test outside => ?_⟩
  · exact get?_put_of_free free found
  · by_cases same : q = p
    · subst same
      rw [get?_put_self below] at found
      exact Or.inr ⟨(Option.some.inj found).symm, Path.isBelow_refl q⟩
    · rw [get?_put_of_ne same] at found
      exact Or.inl found
  · exact chosen_put (outside p (Path.isBelow_refl p) free) _

end Grown

namespace Op

theorem ensureDirectory_grown (proper : p.IsProper) (linkless : t.Linkless p.parent)
    (ran : ensureDirectory p t = .ok () t') : Grown p t t' := by
  obtain ⟨outcome, t₁, tried, ran⟩ := bind_ok_iff.1 ran
  rcases attempt_ok tried with ⟨_, rfl, made⟩ | ⟨problem, rfl, failed⟩
  · obtain ⟨-, rfl⟩ := pure_ok_iff.1 ran
    obtain ⟨free, rfl⟩ := makeDirectory_ok proper linkless made
    exact .put free
  · cases makeDirectory_error failed
    obtain ⟨_, _, got, ran⟩ := bind_ok_iff.1 ran
    obtain ⟨rfl, rfl⟩ := get_ok_iff.1 got
    split at ran
    · exact absurd ran throw_ne_ok
    · obtain ⟨-, rfl⟩ := pure_ok_iff.1 ran
      exact .refl p t

theorem ensureDirectoriesFrom_grown {names : List String}
    (proper : (Path.mk names.reverse).IsProper) (linkless : t.Linkless ⟨names.reverse⟩)
    (ran : ensureDirectoriesFrom names t = .ok () t') : Grown ⟨names.reverse⟩ t t' := by
  induction names generalizing t t' with
  | nil =>
    obtain ⟨-, rfl⟩ := pure_ok_iff.1 ran
    exact .refl _ t
  | cons name above ih =>
    rw [List.reverse_cons] at proper linkless ⊢
    have parent : (Path.mk (above.reverse ++ [name])).parent = ⟨above.reverse⟩ := by simp [Path.parent]
    have below : (Path.mk (above.reverse ++ [name])).isBelow ⟨above.reverse⟩ = true :=
      Path.isBelow_iff.2 ⟨[name], rfl⟩
    have linkless_above := linkless.above below
    have proper_above : (Path.mk above.reverse).IsProper :=
      fun segment member => proper segment (List.mem_append_left _ member)
    obtain ⟨outcome, t₁, tried, ran⟩ := bind_ok_iff.1 ran
    rw [List.reverse_cons] at tried
    rcases attempt_ok tried with ⟨_, rfl, made⟩ | ⟨problem, rfl, failed⟩
    · obtain ⟨-, rfl⟩ := pure_ok_iff.1 ran
      obtain ⟨free, rfl⟩ := makeDirectory_ok proper (parent ▸ linkless_above) made
      exact .put free
    · cases makeDirectory_error failed
      cases problem with
      | missing =>
        obtain ⟨_, t₂, first, ran⟩ := bind_ok_iff.1 ran
        rw [List.reverse_cons] at ran
        have grown := (ih proper_above linkless_above first).mono below
        exact grown.trans (ensureDirectory_grown proper
          (parent ▸ grown.linkless linkless_above) ran)
      | _ =>
        obtain ⟨_, _, got, ran⟩ := bind_ok_iff.1 ran
        obtain ⟨rfl, rfl⟩ := get_ok_iff.1 got
        split at ran
        · exact absurd ran throw_ne_ok
        · obtain ⟨-, rfl⟩ := pure_ok_iff.1 ran
          exact .refl _ t

theorem ensureDirectories_grown (proper : p.IsProper) (linkless : t.Linkless p)
    (ran : ensureDirectories p t = .ok () t') : Grown p t t' := by
  have reversed : (Path.mk p.segments.reverse.reverse) = p := by rw [List.reverse_reverse]
  rw [← reversed] at proper linkless ⊢
  exact ensureDirectoriesFrom_grown proper linkless ran

/-! ## Files -/

/-- A file is written to where its path leads, unless a directory is there. -/
theorem writeFile_place {content : Bytes} (ran : writeFile p content t = .ok () t') :
    ∃ q, t.locateTarget p = .ok q ∧ t.get? q ≠ some .directory ∧ t' = t.put q (.file content) := by
  obtain ⟨q, t₁, found, ran⟩ := bind_ok_iff.1 ran
  obtain ⟨located, rfl⟩ := find_ok_iff.1 found
  obtain ⟨_, _, got, ran⟩ := bind_ok_iff.1 ran
  obtain ⟨rfl, rfl⟩ := get_ok_iff.1 got
  obtain ⟨other, ran⟩ := unless_ok ran
  exact ⟨q, located, other, (modify_ok_iff.1 ran).symm⟩

theorem writeFile_ok {content : Bytes} (proper : p.IsProper) (linkless : t.Linkless p)
    (ran : writeFile p content t = .ok () t') :
    t.get? p ≠ some .directory ∧ t' = t.put p (.file content) := by
  obtain ⟨q, located, written⟩ := writeFile_place ran
  cases locateTarget_eq proper linkless located
  exact written

/-- What is moved comes from where its path is to where the other one is, unless that is a
directory. -/
theorem rename_places (ran : rename p q t = .ok () t') :
    ∃ p' q' e, t.locate p = .ok p' ∧ t.locate q = .ok q' ∧ q.name ≠ ".." ∧ t.get? p' = some e ∧
      t.get? q' ≠ some .directory ∧ t' = (t.erase p').put q' e := by
  obtain ⟨p', t₁, found, ran⟩ := bind_ok_iff.1 ran
  obtain ⟨located, rfl⟩ := find_ok_iff.1 found
  obtain ⟨q', t₁, found, ran⟩ := bind_ok_iff.1 ran
  obtain ⟨located', rfl⟩ := find_ok_iff.1 found
  obtain ⟨named, ran⟩ := unless_ok ran
  obtain ⟨_, _, got, ran⟩ := bind_ok_iff.1 ran
  obtain ⟨rfl, rfl⟩ := get_ok_iff.1 got
  cases there : t.get? p' with
  | none =>
    rw [there] at ran
    exact absurd ran throw_ne_ok
  | some e =>
    rw [there] at ran
    obtain ⟨_, _, got, ran⟩ := bind_ok_iff.1 ran
    obtain ⟨rfl, rfl⟩ := get_ok_iff.1 got
    obtain ⟨other, ran⟩ := unless_ok ran
    exact ⟨p', q', e, located, located', named, there, other, (modify_ok_iff.1 ran).symm⟩

theorem rename_ok {e : Entry} (proper : p.IsProper) (proper' : q.IsProper)
    (linkless : t.Linkless p.parent) (linkless' : t.Linkless q.parent) (there : t.get? p = some e)
    (ran : rename p q t = .ok () t') :
    t.locate q = .ok q ∧ t.get? q ≠ some .directory ∧ t' = (t.erase p).put q e := by
  obtain ⟨_, _, e', located, located', -, found, other, rfl⟩ := rename_places ran
  cases locate_eq proper linkless located
  cases locate_eq proper' linkless' located'
  cases there.symm.trans found
  exact ⟨located', other, rfl⟩

/-- Where a file cannot be written nothing happens. -/
theorem writeFile_error {content : Bytes} {problem : FileProblem}
    (ran : writeFile p content t = .error problem t') : t' = t := by
  rcases bind_error_iff.1 ran with failed | ⟨q, _, found, ran⟩
  · exact find_error failed
  · obtain ⟨-, rfl⟩ := find_ok_iff.1 found
    rcases bind_error_iff.1 ran with got | ⟨_, _, got, ran⟩
    · cases got
    · obtain ⟨rfl, rfl⟩ := get_ok_iff.1 got
      rcases unless_error ran with same | ran
      · exact same
      · cases ran

/-- Where a file cannot be moved nothing happens. -/
theorem rename_error {problem : FileProblem} (ran : rename p q t = .error problem t') : t' = t := by
  rcases bind_error_iff.1 ran with failed | ⟨p', _, found, ran⟩
  · exact find_error failed
  · obtain ⟨-, rfl⟩ := find_ok_iff.1 found
    rcases bind_error_iff.1 ran with failed | ⟨q', _, found, ran⟩
    · exact find_error failed
    · obtain ⟨-, rfl⟩ := find_ok_iff.1 found
      rcases unless_error ran with same | ran
      · exact same
      rcases bind_error_iff.1 ran with got | ⟨_, _, got, ran⟩
      · cases got
      · obtain ⟨rfl, rfl⟩ := get_ok_iff.1 got
        cases there : t.get? p' with
        | none =>
          rw [there] at ran
          cases ran
          rfl
        | some e =>
          rw [there] at ran
          rcases bind_error_iff.1 ran with got | ⟨_, _, got, ran⟩
          · cases got
          · obtain ⟨rfl, rfl⟩ := get_ok_iff.1 got
            rcases unless_error ran with same | ran
            · exact same
            · cases ran

end Op

/-- What a tree has become once some content was written at a path. -/
structure Wrote (p : Path) (content : Bytes) (t t' : FileTree) : Prop where
  file : t'.get? p = some (.file content)
  named : t'.target? p = some (.file content)
  kept : ∀ q e, t.get? q = some e → q ≠ p → q ≠ Op.temporary p → t'.get? q = some e
  fresh : ∀ q e, t'.get? q = some e →
    t.get? q = some e ∨ q = p ∨ e = .directory ∧ p.parent.isBelow q = true
  ways : KeepsWays t t'
  chosen : ∀ test : Path → Bool, test p = false → test (Op.temporary p) = false →
    (∀ q, p.parent.isBelow q = true → t.get? q = none → test q = false) →
      t'.chosen test = t.chosen test

theorem Wrote.links {content : Bytes} (wrote : Wrote p content t t') (link : t'.HasLink q) :
    t.HasLink q := by
  obtain ⟨target, found⟩ := link
  rcases wrote.fresh q _ found with before | rfl | ⟨same, -⟩
  · exact ⟨target, before⟩
  · cases wrote.file.symm.trans found
  · cases same

/-- Where neither the path nor the temporary file lies nor anything on the way to them, all stays. -/
theorem Wrote.part {content : Bytes} (wrote : Wrote p content t t')
    (outside : ∀ q, p.isBelow q = true → q.isBelow d = false)
    (aside : (Op.temporary p).isBelow d = false) : t'.part d = t.part d :=
  wrote.chosen (·.isBelow d) (outside p (Path.isBelow_refl p)) aside fun q above _ =>
    outside q (Path.isBelow_trans p.isBelow_parent above)

namespace Op

theorem parent_temporary (p : Path) : (temporary p).parent = p.parent := by
  simp [temporary, Path.withName, Path.parent]

theorem temporary_ne (p : Path) : temporary p ≠ p := by
  intro same
  have lengths := congrArg (fun p : Path => p.name.toList.length) same
  simp [temporary, Path.withName, Path.name] at lengths
  omega

theorem slash_not_mem_name (proper : p.IsProper) : '/' ∉ p.name.toList := by
  unfold Path.name
  cases last : p.segments.getLast? with
  | none => simp
  | some name => exact (proper name (List.mem_of_getLast? last)).1.2.2

theorem temporary_isProper (proper : p.IsProper) : (temporary p).IsProper := by
  intro segment member
  rcases List.mem_append.1 member with member | member
  · exact proper segment (List.dropLast_subset _ member)
  · rw [List.mem_singleton.1 member]
    have characters : ("." ++ p.name ++ ".tmp").toList = '.' :: (p.name.toList ++ ".tmp".toList) := by
      simp
    have long {s : String} (short : s.toList.length < 5) : "." ++ p.name ++ ".tmp" ≠ s := by
      rintro rfl
      rw [characters] at short
      simp at short
      omega
    refine ⟨⟨long (by decide), long (by decide), ?_⟩, long (by decide)⟩
    rw [characters]
    simp [slash_not_mem_name proper]

theorem linkless_temporary (linkless : t.Linkless p) (plain : ¬ t.HasLink (temporary p)) :
    t.Linkless (temporary p) := by
  intro q upward link
  rcases Path.eq_or_isBelow_parent upward with rfl | upward
  · exact plain link
  · rw [parent_temporary] at upward
    exact linkless q (Path.isBelow_trans p.isBelow_parent upward) link

/-- What writing a file does where no link is in the way. -/
theorem write_ok {content : Bytes} (proper : p.IsProper) (linkless : t.Linkless p)
    (plain : ¬ t.HasLink (temporary p)) (ran : write p content t = .ok () t') :
    Wrote p content t t' := by
  have above := p.isBelow_parent
  obtain ⟨_, t₁, made, ran⟩ := bind_ok_iff.1 ran
  have proper_above : p.parent.IsProper :=
    fun segment member => proper segment (List.dropLast_subset _ member)
  have grown := ensureDirectories_grown proper_above (linkless.above above) made
  obtain ⟨below, ran⟩ := unless_ok ran
  obtain ⟨_, t₂, written, ran⟩ := bind_ok_iff.1 ran
  have linkless₁ := grown.linkless linkless
  have temporary_linkless := linkless_temporary linkless₁ fun link => plain (grown.hasLink link)
  obtain ⟨free, rfl⟩ := writeFile_ok (temporary_isProper proper) temporary_linkless written
  have temporary_below : temporary p ≠ Path.root := by
    intro same
    have := congrArg Path.segments same
    simp [temporary, Path.withName, Path.root] at this
  have links {q : Path} (link : (t₁.put (temporary p) (.file content)).HasLink q) : t₁.HasLink q := by
    obtain ⟨target, found⟩ := link
    by_cases same : q = temporary p
    · rw [same, get?_put_self temporary_below] at found
      cases found
    · rw [get?_put_of_ne same] at found
      exact ⟨target, found⟩
  have linkless₂ : (t₁.put (temporary p) (.file content)).Linkless p.parent :=
    fun q upward link => linkless₁.above above q upward (links link)
  obtain ⟨located, unlike, rfl⟩ := rename_ok (temporary_isProper proper) proper
    (by rwa [parent_temporary]) linkless₂ (get?_put_self temporary_below _) ran
  rw [get?_put_of_ne (temporary_ne p).symm] at unlike
  have others {q : Path} (one : q ≠ p) (two : q ≠ temporary p) :
      (((t₁.put (temporary p) (.file content)).erase (temporary p)).put p (.file content)).get? q =
        t₁.get? q := by
    rw [get?_put_of_ne one, get?_erase_of_ne two, get?_put_of_ne two]
  have aside {q : Path} (upward : p.parent.isBelow q = true) : q ≠ p ∧ q ≠ temporary p := by
    refine ⟨?_, ?_⟩
    · rintro rfl
      exact below (Path.eq_root_of_isBelow_parent upward)
    · rintro rfl
      exact temporary_below (Path.eq_root_of_isBelow_parent (by rwa [parent_temporary]))
  refine ⟨get?_put_self below _, ?_, fun q e found one two => ?_, fun q e found => ?_,
    fun q e found other => ?_, fun test outside aside above => ?_⟩
  · refine target?_of_locate proper linkless₂ (fun q upward => ?_) (get?_put_self below _) located
    obtain ⟨one, two⟩ := aside upward
    rw [get?_put_of_ne one, get?_erase_of_ne two]
  · rw [others one two]
    exact grown.kept q e found
  · by_cases one : q = p
    · exact Or.inr (Or.inl one)
    · by_cases two : q = temporary p
      · rw [two, get?_put_of_ne (temporary_ne p), get?_erase_self temporary_below] at found
        cases found
      · rw [others one two] at found
        exact (grown.fresh q e found).imp_right Or.inr
  · have kept := grown.kept q e found
    rw [others ?_ ?_, kept]
    · rintro rfl
      cases e with
      | file content => exact other content rfl
      | link target => exact linkless q (Path.isBelow_refl q) ⟨target, found⟩
      | directory => exact unlike kept
    · rintro rfl
      cases e with
      | file content => exact other content rfl
      | link target => exact plain ⟨target, found⟩
      | directory => exact free kept
  · rw [chosen_put outside, chosen_erase aside, chosen_put aside]
    exact grown.chosen test above

/-- Where a write stops and no link is in the way, all stays but for the temporary file. -/
theorem write_error {content : Bytes} {problem : FileProblem} {e : Entry} (proper : p.IsProper)
    (linkless : t.Linkless p) (plain : ¬ t.HasLink (temporary p))
    (ran : write p content t = .error problem t') (found : t.get? q = some e)
    (other : q ≠ temporary p) : t'.get? q = some e := by
  have proper_above : p.parent.IsProper :=
    fun segment member => proper segment (List.dropLast_subset _ member)
  rcases bind_error_iff.1 ran with stopped | ⟨_, t₁, made, ran⟩
  · exact (Keeps.error (maintains_ensureDirectories fun _ _ => maintains_makeDirectory) found stopped).1
  · have grown := ensureDirectories_grown proper_above (linkless.above p.isBelow_parent) made
    have found := grown.kept q e found
    rcases unless_error ran with rfl | ran
    · exact found
    · rcases bind_error_iff.1 ran with stopped | ⟨_, t₂, written, ran⟩
      · rw [writeFile_error stopped, found]
      · have way := linkless_temporary (grown.linkless linkless) fun link => plain (grown.hasLink link)
        obtain ⟨-, rfl⟩ := writeFile_ok (temporary_isProper proper) way written
        rw [rename_error ran, get?_put_of_ne other, found]

/-! ## Removing files -/

/-- A file at a path without links is removed. -/
theorem remove_ok {content : Bytes} (proper : p.IsProper) (linkless : t.Linkless p)
    (named : t.target? p = some (.file content)) (ran : remove p t = .ok () t') : t' = t.erase p := by
  have there := get?_of_target? proper linkless named
  have found : find (·.locate p) t = .ok p t := by
    rw [find, locate_of_target? proper linkless named]
  have unlinked : unlink p t = .ok () (t.erase p) := by
    refine bind_ok_iff.2 ⟨p, t, found, bind_ok_iff.2 ⟨t, t, rfl, ?_⟩⟩
    rw [there]
    rfl
  obtain ⟨outcome, t₁, tried, ran⟩ := bind_ok_iff.1 ran
  rcases attempt_ok tried with ⟨_, rfl, removed⟩ | ⟨problem, rfl, failed⟩
  · obtain ⟨-, rfl⟩ := pure_ok_iff.1 ran
    rw [unlinked] at removed
    cases removed
    rfl
  · rw [unlinked] at failed
    cases failed

end Op

/-! ## Writes that stop -/

/-- Whether directories and links of a tree are there in another one, and files too, with whatever
content. -/
structure Persists (t t' : FileTree) : Prop where
  ways : KeepsWays t t'
  files : ∀ q content, t.get? q = some (.file content) →
    ∃ content', t'.get? q = some (.file content')

namespace Persists

theorem refl (t : FileTree) : Persists t t :=
  ⟨fun _ _ found _ => found, fun _ content found => ⟨content, found⟩⟩

theorem of_kept (persists : Persists t t') (kept : ∀ q e, t'.get? q = some e → t''.get? q = some e) :
    Persists t t'' where
  ways q e found other := kept q e (persists.ways q e found other)
  files q content found := (persists.files q content found).imp fun _ => kept q _

/-- A file may be put where neither a directory nor a link is. -/
theorem put (persists : Persists t t') (free : t'.get? q ≠ some .directory) (plain : ¬ t'.HasLink q)
    (content : Bytes) : Persists t (t'.put q (.file content)) where
  ways p e found other := by
    have there := persists.ways p e found other
    rw [get?_put_of_ne, there]
    rintro rfl
    cases e with
    | file content => exact other content rfl
    | link target => exact plain ⟨target, there⟩
    | directory => exact free there
  files p content' found := by
    by_cases here : p = q
    · subst here
      have below : p ≠ Path.root := by
        rintro rfl
        cases found
      exact ⟨content, get?_put_self below _⟩
    · obtain ⟨content'', there⟩ := persists.files p content' found
      exact ⟨content'', (get?_put_of_ne here _).trans there⟩

theorem target? (persists : Persists t t') {content : Bytes}
    (named : t.target? p = some (.file content)) :
    ∃ content', t'.target? p = some (.file content') := by
  unfold FileTree.target? at named ⊢
  cases reached : t.locateTarget p with
  | error problem => rw [reached] at named; cases named
  | ok q =>
    rw [reached] at named
    obtain ⟨content', there⟩ := persists.files q content named
    rw [locateTarget_persists persists.ways named (fun _ _ => ⟨content', there⟩) reached]
    exact ⟨content', there⟩

end Persists

namespace Op

theorem persists_makeDirectory : Maintains (Persists t) (makeDirectory p) := by
  refine .intro (fun u _ u' persists ran => ⟨?_, trivial⟩) fun u _ u' persists ran =>
    ⟨makeDirectory_error ran ▸ persists, trivial⟩
  exact persists.of_kept fun q e found => (maintains_makeDirectory.ok found ran).1

theorem persists_writeFile (content : Bytes) : Maintains (Persists t) (writeFile p content) := by
  refine .intro (fun u _ u' persists ran => ⟨?_, trivial⟩) fun u _ u' persists ran =>
    ⟨writeFile_error ran ▸ persists, trivial⟩
  obtain ⟨q, located, free, rfl⟩ := writeFile_place ran
  exact persists.put free (locateTarget_linkless located q (Path.isBelow_refl q)) content

/-- Where a write stops all that was there is, but for contents. -/
theorem write_persists {content : Bytes} {problem : FileProblem}
    (ran : write p content t = .error problem t') : Persists t t' := by
  have above : Maintains (Persists t) (ensureDirectories p.parent) :=
    maintains_ensureDirectories fun _ _ => persists_makeDirectory
  rcases bind_error_iff.1 ran with stopped | ⟨_, t₁, made, ran⟩
  · exact (above.error (.refl t) stopped).1
  · have made := (above.ok (.refl t) made).1
    rcases unless_error ran with rfl | ran
    · exact made
    · rcases bind_error_iff.1 ran with stopped | ⟨_, t₂, written, ran⟩
      · exact ((persists_writeFile content).error made stopped).1
      · rw [rename_error ran]
        exact ((persists_writeFile content).ok made written).1

end Op

end Folio.FileTree
