import Folio.FileTree.Operation
import Folio.Proofs.FileTree.Proper
import Folio.Proofs.Invariant
import Mathlib.Data.List.Induction

/-!
# Fences

Below a fenced directory links lie only at known places. An operation on a path that passes none of
them changes nothing but below the directory and on the way to it, and leaves the directory fenced
(`Op.KeepsFence`). A directory that is reset is fenced whatever it held before
(`Op.resetDirectory_empty`).
-/

namespace Folio.FileTree

variable {d p q : Path} {place : List String → Prop} {t t' t₀ : FileTree} {α β : Type}

/-! ## Paths that pass no place -/

/-- Whether a path is none of some places below a directory. -/
def Free (d : Path) (place : List String → Prop) (q : Path) : Prop :=
  ∀ names, d.append names = q → ¬ place names

/-- Whether a path leads below a directory, or lies on the way there, and passes none of some
places. -/
structure Within (d : Path) (place : List String → Prop) (p : Path) : Prop where
  proper : p.IsProper
  near : p.isBelow d = true ∨ d.isBelow p = true
  free : ∀ q, p.parent.isBelow q = true → Free d place q

namespace Within

theorem above (within : Within d place p) (below : p.isBelow q = true) : Within d place q where
  proper := within.proper.above below
  near := within.near.elim (fun inside => Path.isBelow_total below inside)
    fun upward => Or.inr (Path.isBelow_trans upward below)
  free r upward := within.free r (Path.isBelow_trans (Path.parent_isBelow_parent below) upward)

theorem parent (within : Within d place p) : Within d place p.parent :=
  within.above p.isBelow_parent

/-- What is beside a path that leads below a directory does so too. -/
theorem beside (within : Within d place p) (inside : p.parent.isBelow d = true) (proper : q.IsProper)
    (same : q.parent = p.parent) : Within d place q where
  proper := proper
  near := Or.inl (Path.isBelow_trans q.isBelow_parent (same ▸ inside))
  free := same ▸ within.free

theorem of_nowhere (proper : p.IsProper) (inside : p.isBelow d = true) :
    Within d (fun _ => False) p :=
  ⟨proper, Or.inl inside, fun _ _ _ _ => id⟩

end Within

/-! ## Fenced directories -/

/-- Whether the links below a directory lie only at some places and none on the way to it, and all
else is as it was. -/
structure Fenced (d : Path) (place : List String → Prop) (t₀ t : FileTree) : Prop where
  way : t.Linkless d
  links : ∀ names, t.HasLink (d.append names) → place names
  kept : ∀ q, q.isBelow d = false → d.isBelow q = false → t.get? q = t₀.get? q
  proper : ∀ q e, t.get? q = some e → q.IsProper

namespace Fenced

/-- No link lies on the way to a path that passes no place. -/
theorem linkless (fenced : Fenced d place t₀ t) (within : Within d place p) :
    t.Linkless p.parent := by
  intro q upward link
  rcases (within.above (Path.isBelow_trans p.isBelow_parent upward)).near with inside | above
  · obtain ⟨names, rfl⟩ := Path.isBelow_iff.1 inside
    exact within.free _ upward names rfl (fenced.links names link)
  · exact fenced.way q above link

theorem linkless_of_free (fenced : Fenced d place t₀ t) (within : Within d place p)
    (free : Free d place p) : t.Linkless p := by
  intro q upward link
  rcases Path.eq_or_isBelow_parent upward with rfl | upward
  · rcases within.near with inside | above
    · obtain ⟨names, rfl⟩ := Path.isBelow_iff.1 inside
      exact free names rfl (fenced.links names link)
    · exact fenced.way q above link
  · exact fenced.linkless within q upward link

theorem put (fenced : Fenced d place t₀ t) (within : Within d place p) {e : Entry}
    (link : e.isLink = true → ∃ names, names ≠ [] ∧ d.append names = p ∧ place names) :
    Fenced d place t₀ (t.put p e) where
  way q above := by
    rintro ⟨target, found⟩
    rcases get?_put_cases found with ⟨rfl, rfl⟩ | before
    · obtain ⟨names, some, rfl, -⟩ := link rfl
      have same := Path.eq_of_isBelow (Path.isBelow_append d names) above
      exact some (List.append_right_eq_self.1 (congrArg Path.segments same))
    · exact fenced.way q above ⟨target, before⟩
  links names := by
    rintro ⟨target, found⟩
    rcases get?_put_cases found with ⟨same, rfl⟩ | before
    · obtain ⟨names', -, here, holds⟩ := link rfl
      rwa [List.append_cancel_left (congrArg Path.segments (same.trans here.symm))]
    · exact fenced.links names ⟨target, before⟩
  kept q outside aside := by
    rw [get?_put_of_ne, fenced.kept q outside aside]
    rintro rfl
    rcases within.near with inside | above
    · exact absurd (outside.symm.trans inside) Bool.false_ne_true
    · exact absurd (aside.symm.trans above) Bool.false_ne_true
  proper q e found := by
    rcases get?_put_cases found with ⟨rfl, -⟩ | before
    · exact within.proper
    · exact fenced.proper q e before

/-- What a fenced directory loses leaves it fenced. -/
theorem fewer (fenced : Fenced d place t₀ t) (less : ∀ q e, t'.get? q = some e → t.get? q = some e)
    (kept : ∀ q, q.isBelow d = false → d.isBelow q = false → t'.get? q = t.get? q) :
    Fenced d place t₀ t' where
  way q above link := fenced.way q above (link.imp fun _ found => less q _ found)
  links names link := fenced.links names (link.imp fun _ found => less _ _ found)
  kept q outside aside := (kept q outside aside).trans (fenced.kept q outside aside)
  proper q e found := fenced.proper q e (less q e found)

theorem erase (fenced : Fenced d place t₀ t) (near : p.isBelow d = true ∨ d.isBelow p = true) :
    Fenced d place t₀ (t.erase p) := by
  refine fenced.fewer (fun q e => get?_of_erase) fun q outside aside => get?_erase_of_ne ?_
  rintro rfl
  rcases near with inside | above
  · exact absurd (outside.symm.trans inside) Bool.false_ne_true
  · exact absurd (aside.symm.trans above) Bool.false_ne_true

theorem prune (fenced : Fenced d place t₀ t) (inside : p.isBelow d = true) :
    Fenced d place t₀ (t.prune p) := by
  refine fenced.fewer (fun q e => get?_of_prune) fun q outside _ => get?_prune_of_not ?_
  rw [Bool.eq_false_iff] at outside ⊢
  exact fun below => outside (Path.isBelow_trans below inside)

theorem mem_filesBelow (fenced : Fenced d place t₀ t) (proper : q.IsProper)
    (listed : p ∈ t.filesBelow q) : p.IsProper :=
  IsProper.of_mem_filesBelow fenced.proper proper listed

/-- What is told of the places of links may be told of more. -/
theorem mono {place' : List String → Prop} (fenced : Fenced d place t₀ t)
    (more : ∀ names, t.HasLink (d.append names) → place' names) : Fenced d place' t₀ t :=
  { fenced with links := more }

end Fenced

/-! ## Operations -/

namespace Op

/-- Whether an operation leaves a fenced directory fenced, however it ends. -/
abbrev KeepsFence (d : Path) (place : List String → Prop) (t₀ : FileTree) (x : Op α) : Prop :=
  Maintains (Fenced d place t₀) x

/-- A path that passes no place is found in its own place. -/
theorem fence_locate (within : Within d place p) :
    Keeps (Fenced d place t₀) (fun _ _ => True) (· = p) (find (·.locate p)) := by
  refine .intro (fun t q t' fenced ran => ?_) fun t problem t' fenced ran => ?_
  · obtain ⟨located, rfl⟩ := find_ok_iff.1 ran
    exact ⟨fenced, locate_eq within.proper (fenced.linkless within) located⟩
  · exact Keeps.error (maintains_find _) fenced ran

theorem fence_locateTarget (within : Within d place p) (free : Free d place p) :
    Keeps (Fenced d place t₀) (fun _ _ => True) (· = p) (find (·.locateTarget p)) := by
  refine .intro (fun t q t' fenced ran => ?_) fun t problem t' fenced ran => ?_
  · obtain ⟨located, rfl⟩ := find_ok_iff.1 ran
    exact ⟨fenced, locateTarget_eq within.proper (fenced.linkless_of_free within free) located⟩
  · exact Keeps.error (maintains_find _) fenced ran

theorem fence_makeDirectory (within : Within d place p) :
    KeepsFence d place t₀ (makeDirectory p) := by
  refine (fence_locate within).bind fun q same => .get_bind fun t _ => maintains_unless ?_
  exact .modify fun t fenced => same ▸ fenced.put within fun link => nomatch link

theorem fence_ensureDirectories (within : Within d place p) :
    KeepsFence d place t₀ (ensureDirectories p) :=
  maintains_ensureDirectories fun _ upward => fence_makeDirectory (within.above upward)

theorem fence_writeFile (within : Within d place p) (free : Free d place p) (content : Bytes) :
    KeepsFence d place t₀ (writeFile p content) := by
  refine (fence_locateTarget within free).bind fun q same => .get_bind fun t _ => maintains_unless ?_
  exact .modify fun t fenced => same ▸ fenced.put within fun link => nomatch link

theorem fence_unlink (within : Within d place p) : KeepsFence d place t₀ (unlink p) := by
  refine (fence_locate within).bind fun q same => .get_bind fun t _ => ?_
  split
  · exact maintains_throw _
  · exact maintains_throw _
  · exact .modify fun t fenced => same ▸ fenced.erase within.near

/-- What is moved is no link, since none lies at a free path. -/
theorem fence_rename (source : Within d place p) (free : Free d place p) (within : Within d place q) :
    KeepsFence d place t₀ (rename p q) := by
  refine (fence_locate source).bind fun _ here => (fence_locate within).bind fun _ there => ?_
  rw [here, there]
  refine maintains_unless (.get_bind fun t fenced => ?_)
  split
  · exact maintains_throw _
  · next e found =>
    refine .get_bind fun t' _ => maintains_unless (.modify fun t' fenced' => ?_)
    refine (fenced'.erase source.near).put within fun link => ?_
    cases e with
    | link target =>
      exact absurd ⟨target, found⟩ (fenced.linkless_of_free source free p (Path.isBelow_refl p))
    | _ => cases link

theorem fence_removeTree (within : Within d place p) (inside : p.isBelow d = true) :
    KeepsFence d place t₀ (removeTree p) :=
  (fence_locate within).bind fun _ same =>
    .modify fun _ fenced => same ▸ fenced.prune inside

theorem fence_write (within : Within d place p) (inside : p.parent.isBelow d = true)
    (free : Free d place (temporary p)) (content : Bytes) :
    KeepsFence d place t₀ (write p content) := by
  have beside := within.beside inside (temporary_isProper within.proper) (parent_temporary p)
  refine (fence_ensureDirectories within.parent).bind fun _ _ => maintains_unless ?_
  exact (fence_writeFile beside free content).bind fun _ _ => fence_rename beside free within

theorem fence_remove (within : Within d place p) : KeepsFence d place t₀ (remove p) := by
  refine (maintains_attempt (fence_unlink within)).bind fun outcome _ => ?_
  split
  · exact .pure trivial
  · exact .pure trivial
  · exact maintains_throw _

theorem fence_clear (within : Within d place p) (inside : p.isBelow d = true) :
    KeepsFence d place t₀ (clear p) := by
  refine .get_bind fun t _ => ?_
  split
  · exact fence_unlink within
  · split
    · exact fence_removeTree within inside
    · exact .pure trivial

/-- A link may be put at a place. -/
theorem fence_link {names : List String} (within : Within d place (d.append names))
    (some : names ≠ []) (holds : place names) (target : Path) :
    KeepsFence d place t₀ (link target (d.append names)) := by
  refine (fence_ensureDirectories within.parent).bind fun _ _ => ?_
  refine (fence_clear within (Path.isBelow_append d names)).bind fun _ _ => .get_bind fun t _ => ?_
  refine maintains_unless ((fence_locate within).bind fun q same => .modify fun t fenced => ?_)
  exact same ▸ fenced.put within fun _ => ⟨names, some, rfl, holds⟩

/-! ## Copies -/

section Copies

variable {source : Path}

theorem fence_copyFile (naming : Naming) (proper : p.IsProper) (inside : p.isBelow d = true)
    (name : IsSegment source.name ∧ source.name ≠ "..") :
    KeepsFence d (fun _ => False) t₀ (copyFile naming source p) := by
  refine .get_bind fun t _ => ?_
  have ready : Path.IsProper (if t.isDirectory p = true then p.child source.name else p) ∧
      (if t.isDirectory p = true then p.child source.name else p).isBelow d = true := by
    split
    · exact ⟨proper.child name, Path.isBelow_trans (Path.isBelow_child p source.name) inside⟩
    · exact ⟨proper, inside⟩
  dsimp only
  generalize (if t.isDirectory p = true then p.child source.name else p) = into at ready ⊢
  have copied : KeepsFence d (fun _ => False) t₀ (do
      let bytes ← content source
      writeFile into bytes) :=
    (maintains_content source).bind fun bytes _ =>
      fence_writeFile (.of_nowhere ready.1 ready.2) (fun _ _ => id) bytes
  split
  · exact maintains_unless copied
  · exact copied

theorem fence_copyTree {depth : Nat} (proper : p.IsProper) (inside : p.isBelow d = true) :
    KeepsFence d (fun _ => False) t₀ (copyTree depth source p) := by
  induction depth generalizing source p with
  | zero => exact maintains_throw _
  | succ depth ih =>
    refine (maintains_find _).bind fun place _ => .get_bind fun t fenced => ?_
    refine (maintains_ensureDirectory (fence_makeDirectory (.of_nowhere proper inside))).bind fun _ _ => ?_
    refine Keeps.bind (Q := fun _ => True) (.foldlM trivial fun failed name _ listed => ?_) fun failed _ => ?_
    · have named := IsProper.of_mem_names fenced.proper listed
      have proper' : (p.child name).IsProper := by
        intro segment member
        rcases List.mem_append.1 member with member | member
        · exact proper segment member
        · exact List.mem_singleton.1 member ▸ named
      have inside' := Path.isBelow_trans (Path.isBelow_append p [name]) inside
      refine .get_bind fun t _ => (maintains_attempt ?_).bind fun outcome _ => ?_
      · split
        · exact ih proper' inside'
        · refine fence_copyFile .entries proper' inside' ?_
          simpa [Path.child, Path.name] using named
      · cases outcome <;> exact .pure trivial
    · split
      · exact maintains_throw _
      · exact .pure trivial

theorem fence_copy (proper : p.IsProper) (inside : p.isBelow d = true)
    (name : IsSegment source.name ∧ source.name ≠ "..") :
    KeepsFence d (fun _ => False) t₀ (copy source p) := by
  refine (fence_ensureDirectories (Within.of_nowhere proper inside).parent).bind fun _ _ => ?_
  refine .get_bind fun t _ => ?_
  split
  · exact fence_copyTree proper inside
  · exact fence_copyFile .paths proper inside name

end Copies

/-! ## Resetting a directory -/

theorem unlink_ok (proper : p.IsProper) (linkless : t.Linkless p.parent)
    (ran : unlink p t = .ok () t') : t.get? p ≠ some .directory ∧ t' = t.erase p := by
  obtain ⟨_, t₁, found, ran⟩ := bind_ok_iff.1 ran
  obtain ⟨located, rfl⟩ := find_ok_iff.1 found
  cases locate_eq proper linkless located
  obtain ⟨_, _, got, ran⟩ := bind_ok_iff.1 ran
  obtain ⟨rfl, rfl⟩ := get_ok_iff.1 got
  cases there : t.get? p with
  | none =>
    rw [there] at ran
    exact absurd ran throw_ne_ok
  | some e =>
    rw [there] at ran
    cases e with
    | directory => exact absurd ran throw_ne_ok
    | _ => exact ⟨by simp, (modify_ok_iff.1 ran).symm⟩

/-- A path is cleared as what lies there asks for. -/
theorem clear_ok (proper : p.IsProper) (linkless : t.Linkless p.parent)
    (ran : clear p t = .ok () t') :
    t' = t ∨ (t.get? p ≠ some .directory ∧ t' = t.erase p) ∨ t' = t.prune p := by
  obtain ⟨_, _, got, ran⟩ := bind_ok_iff.1 ran
  obtain ⟨rfl, rfl⟩ := get_ok_iff.1 got
  split at ran
  · exact Or.inr (Or.inl (unlink_ok proper linkless ran))
  · split at ran
    · obtain ⟨_, t₁, found, ran⟩ := bind_ok_iff.1 ran
      obtain ⟨located, rfl⟩ := find_ok_iff.1 found
      cases locate_eq proper linkless located
      exact Or.inr (Or.inr (modify_ok_iff.1 ran).symm)
    · exact Or.inl (pure_ok_iff.1 ran).2.symm

theorem within_self (proper : d.IsProper) (below : d ≠ Path.root) : Within d place d where
  proper := proper
  near := Or.inl (Path.isBelow_refl d)
  free q upward names same := by
    subst same
    exact absurd (Path.eq_root_of_isBelow_parent
      (Path.isBelow_trans upward (Path.isBelow_append d names))) below

theorem fence_resetDirectory (proper : d.IsProper) (below : d ≠ Path.root) :
    KeepsFence d place t₀ (resetDirectory d) := by
  have within : Within d place d := within_self proper below
  refine (fence_clear within (Path.isBelow_refl d)).bind fun _ _ => ?_
  refine (maintains_attempt (fence_makeDirectory within)).bind fun outcome _ => ?_
  split
  · exact .pure trivial
  · exact (fence_ensureDirectories within.parent).bind fun _ _ => fence_makeDirectory within
  · exact maintains_throw _

end Op

/-- Whether all that a tree holds has a proper path and lies in a directory. -/
def Rooted (t : FileTree) : Prop :=
  ∀ q e, t.get? q = some e → q.IsProper ∧ t.get? q.parent = some .directory

instance (t : FileTree) : Decidable t.Rooted :=
  decidable_of_iff (∀ e ∈ t.entries, e.1.IsProper ∧ t.get? e.1.parent = some .directory) <| by
    refine ⟨fun all q e found => ?_, fun rooted e member => ?_⟩
    · by_cases top : q = Path.root
      · subst top
        exact ⟨fun _ member => (nomatch member), rfl⟩
      · obtain ⟨e, member⟩ := exists_mem_entries found top
        exact all _ member
    · obtain ⟨there, found⟩ := exists_get?_of_mem member
      exact rooted e.1 there found

theorem Rooted.directory {e : Entry} (rooted : t.Rooted) (found : t.get? p = some e)
    (below : p.isBelow q = true) (other : p ≠ q) : t.get? q = some .directory := by
  obtain ⟨names, rfl⟩ := Path.isBelow_iff.1 below
  induction names using List.reverseRecOn generalizing e with
  | nil => exact absurd (Path.append_nil q) other
  | append_singleton names name ih =>
    have above : (q.append (names ++ [name])).parent = q.append names := by
      rw [← Path.append_append]
      simp [Path.append, Path.parent]
    have directory := above ▸ (rooted _ e found).2
    by_cases here : q.append names = q
    · rwa [here] at directory
    · exact ih directory (Path.isBelow_append q names) here

/-- A directory is reset by clearing its path and making it anew, with what lies above it. -/
theorem Op.resetDirectory_ok (proper : d.IsProper) (linkless : t.Linkless d.parent)
    (ran : resetDirectory d t = .ok () t') :
    ∃ t₁ t₂, clear d t = .ok () t₁ ∧
      (t₁ = t ∨ (t.get? d ≠ some .directory ∧ t₁ = t.erase d) ∨ t₁ = t.prune d) ∧
      Grown d.parent t₁ t₂ ∧ t₂.get? d = none ∧ t' = t₂.put d .directory := by
  have proper_above : d.parent.IsProper :=
    fun segment member => proper segment (List.dropLast_subset _ member)
  obtain ⟨_, t₁, cleared, ran⟩ := bind_ok_iff.1 ran
  have cases := clear_ok proper linkless cleared
  have linkless₁ : t₁.Linkless d.parent := by
    rintro q above ⟨target, found⟩
    refine linkless q above ⟨target, ?_⟩
    rcases cases with rfl | ⟨-, rfl⟩ | rfl
    · exact found
    · exact get?_of_erase found
    · exact get?_of_prune found
  obtain ⟨outcome, t₂, tried, ran⟩ := bind_ok_iff.1 ran
  rcases attempt_ok tried with ⟨_, rfl, made⟩ | ⟨problem, rfl, failed⟩
  · obtain ⟨-, rfl⟩ := pure_ok_iff.1 ran
    obtain ⟨here, rfl⟩ := makeDirectory_ok proper linkless₁ made
    exact ⟨t₁, t₁, cleared, cases, .refl _ _, here, rfl⟩
  · cases makeDirectory_error failed
    cases problem with
    | missing =>
      obtain ⟨_, t₃, ensured, ran⟩ := bind_ok_iff.1 ran
      have grown := ensureDirectories_grown proper_above linkless₁ ensured
      obtain ⟨here, rfl⟩ := makeDirectory_ok proper (grown.linkless linkless₁) ran
      exact ⟨t₁, t₃, cleared, cases, grown, here, rfl⟩
    | _ => exact absurd ran throw_ne_ok

/-- A directory that has been reset is empty, whatever lay there before. -/
theorem Op.resetDirectory_empty (proper : d.IsProper) (way : t.Linkless d) (rooted : t.Rooted)
    (ran : resetDirectory d t = .ok () t') {names : List String} (some : names ≠ []) :
    t'.get? (d.append names) = none := by
  have other : d.append names ≠ d := fun same =>
    some (List.append_right_eq_self.1 (congrArg Path.segments same))
  have under : d.append names ≠ Path.root := fun top =>
    some (List.append_eq_nil_iff.1 (congrArg Path.segments top)).2
  obtain ⟨t₁, t₂, -, cleared, grown, here, rfl⟩ :=
    resetDirectory_ok proper (way.above d.isBelow_parent) ran
  rw [get?_put_of_ne other]
  cases found : t₂.get? (d.append names) with
  | none => rfl
  | some e =>
    exfalso
    rcases grown.fresh _ e found with before | ⟨-, upward⟩
    · -- The directory is made where nothing is left, so all below it is gone.
      rcases cleared with rfl | ⟨unlike, rfl⟩ | rfl
      · have directory := rooted.directory before (Path.isBelow_append d names) other
        cases here.symm.trans (grown.kept d _ directory)
      · rw [get?_erase_of_ne other] at before
        exact unlike (rooted.directory before (Path.isBelow_append d names) other)
      · cases (get?_prune_below (Path.isBelow_append d names) under).symm.trans before
    · have top := Path.eq_root_of_isBelow_parent
        (Path.isBelow_trans upward (Path.isBelow_append d names))
      subst top
      cases here

theorem Op.resetDirectory_directory (proper : d.IsProper) (way : t.Linkless d)
    (ran : resetDirectory d t = .ok () t') : t'.get? d = some .directory := by
  obtain ⟨_, _, -, -, -, -, rfl⟩ := resetDirectory_ok proper (way.above d.isBelow_parent) ran
  by_cases top : d = Path.root
  · rw [top]
    rfl
  · exact get?_put_self top _

/-- What lies elsewhere stays when a directory is reset. -/
theorem Op.resetDirectory_kept {e : Entry} (proper : d.IsProper) (way : t.Linkless d)
    (ran : resetDirectory d t = .ok () t') (outside : q.isBelow d = false)
    (found : t.get? q = some e) : t'.get? q = some e := by
  have other : q ≠ d := by
    rintro rfl
    exact absurd (outside.symm.trans (Path.isBelow_refl q)) Bool.false_ne_true
  obtain ⟨t₁, t₂, -, cleared, grown, -, rfl⟩ :=
    resetDirectory_ok proper (way.above d.isBelow_parent) ran
  rw [get?_put_of_ne other]
  refine grown.kept q e ?_
  rcases cleared with rfl | ⟨-, rfl⟩ | rfl
  · exact found
  · rwa [get?_erase_of_ne other]
  · rwa [get?_prune_of_not outside]

end Folio.FileTree
