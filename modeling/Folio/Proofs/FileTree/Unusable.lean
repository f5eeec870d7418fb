import Folio.FileTree.Operation
import Folio.Proofs.FileTree.Walk
import Folio.Proofs.Invariant

/-!
# Paths that no file can have

An operation calls a path unusable only if one of the paths that it was given holds a null character
or is the root. Nothing that lies in the tree, and no link, makes it do so.
-/

namespace Folio.FileTree

variable {t : FileTree} {p q : Path} {α β : Type}

theorem walkOn_usable {followLast : Bool}
    {follow : Option (Path → List String → Except FileProblem Path)} {here : Path}
    {names : List String}
    (further : ∀ f here names, follow = some f → f here names ≠ .error .unusablePath) :
    t.walkOn followLast follow here names ≠ .error .unusablePath := by
  induction names generalizing here with
  | nil => simp [walkOn]
  | cons name rest ih =>
    unfold walkOn
    split
    · exact ih
    · split
      · simp
      · split
        · split <;> simp
        · exact ih
        · split <;> simp
        · split
          · simp
          · split
            · simp
            · exact further _ _ _ rfl

theorem walk_usable {followLast : Bool} {links : Nat} {here : Path} {names : List String} :
    t.walk followLast links here names ≠ .error .unusablePath := by
  induction links generalizing here names with
  | zero => exact walkOn_usable fun _ _ _ same => nomatch same
  | succ links ih =>
    refine walkOn_usable fun f here names same => ?_
    cases same
    exact ih

theorem locate_unusable (failed : t.locate p = .error .unusablePath) : holdsNull p = true := by
  unfold locate at failed
  split at failed
  · next null => exact null
  · exact absurd failed walk_usable

theorem locateTarget_unusable (failed : t.locateTarget p = .error .unusablePath) :
    holdsNull p = true := by
  unfold locateTarget at failed
  split at failed
  · next null => exact null
  · exact absurd failed walk_usable

theorem holdsNull_of_target? {e : Entry} (named : t.target? p = some e) : holdsNull p = false := by
  rw [Bool.eq_false_iff]
  intro null
  rw [target?, locateTarget, if_pos null] at named
  cases named

theorem holdsNull_of_isBelow (null : holdsNull q = true) (below : p.isBelow q = true) :
    holdsNull p = true := by
  obtain ⟨segment, member, null⟩ := List.any_eq_true.1 null
  exact List.any_eq_true.2
    ⟨segment, (List.isPrefixOf_iff_prefix.1 below).subset member, null⟩

namespace Op

/-- Whether an operation calls a path unusable only under a condition. -/
def Usable (excuse : Prop) (x : Op α) : Prop :=
  Keeps (fun _ => True) (fun problem _ => problem = .unusablePath → excuse) (fun _ => True) x

variable {excuse : Prop}

theorem Usable.bind {x : Op α} {f : α → Op β} (first : Usable excuse x)
    (second : ∀ a, Usable excuse (f a)) : Usable excuse (x >>= f) :=
  Keeps.bind first fun a _ => second a

theorem Usable.get_bind {f : FileTree → Op β} (next : ∀ t, Usable excuse (f t)) :
    Usable excuse (get >>= f) :=
  Keeps.get_bind fun t _ => next t

theorem usable_pure (a : α) : Usable excuse (pure a) :=
  Keeps.pure trivial

theorem usable_modify (f : FileTree → FileTree) : Usable excuse (modify f : Op Unit) :=
  Keeps.modify fun _ _ => trivial

theorem usable_throw {problem : FileProblem} (only : problem = .unusablePath → excuse) :
    Usable excuse (throw problem : Op α) :=
  Keeps.throw fun _ _ => only

theorem Usable.attempt {x : Op α} {f : Except FileProblem α → Op β} (usable : Usable excuse x)
    (next : ∀ outcome, (outcome = .error .unusablePath → excuse) → Usable excuse (f outcome)) :
    Usable excuse (attempt x >>= f) := by
  refine Keeps.bind (Q := fun outcome => outcome = .error .unusablePath → excuse) ?_ next
  intro t start
  unfold Op.attempt
  cases ran : x t with
  | ok a t' => exact ⟨trivial, fun same => nomatch same⟩
  | error problem t' =>
    exact ⟨trivial, fun same => (usable.error start ran).2 (Except.error.inj same)⟩

theorem usable_attempt (x : Op α) : Usable excuse (Op.attempt x) := by
  intro t start
  unfold Op.attempt
  cases x t <;> exact ⟨trivial, trivial⟩

theorem usable_find {search : FileTree → Except FileProblem Path}
    (only : ∀ t, search t = .error .unusablePath → excuse) : Usable excuse (find search) := by
  intro t _
  unfold find
  cases found : search t with
  | ok q => exact ⟨trivial, trivial⟩
  | error problem => exact ⟨trivial, fun same => only t (same ▸ found)⟩

theorem usable_content (only : holdsNull p = true → excuse) : Usable excuse (content p) := by
  refine (usable_find fun t failed => only (locateTarget_unusable failed)).bind fun q => ?_
  refine .get_bind fun t => ?_
  split
  · exact usable_pure _
  · exact usable_throw fun same => nomatch same
  · exact usable_throw fun same => nomatch same

theorem usable_unless {stops : Prop} [Decidable stops] {problem : FileProblem} {x : Op α}
    (only : stops → problem = .unusablePath → excuse) (usable : Usable excuse x) :
    Usable excuse (do
      if stops then throw problem
      x) := by
  dsimp only
  split
  · next stop => exact (usable_throw (only stop)).bind fun _ => usable
  · exact usable

theorem usable_writeFile (only : holdsNull p = true → excuse) (content : Bytes) :
    Usable excuse (writeFile p content) := by
  refine (usable_find fun t failed => only (locateTarget_unusable failed)).bind fun q => ?_
  exact .get_bind fun t => usable_unless (fun _ same => nomatch same) (usable_modify _)

theorem usable_makeDirectory (only : holdsNull p = true → excuse) :
    Usable excuse (makeDirectory p) := by
  refine (usable_find fun t failed => only (locate_unusable failed)).bind fun q => ?_
  refine .get_bind fun t => ?_
  split
  · exact (usable_throw fun same => nomatch same).bind fun _ => usable_modify _
  · exact usable_modify _

/-- A problem with making a directory is told of unless there is one. -/
theorem usable_unlessDirectory {problem : FileProblem}
    (only : (Except.error problem : Except FileProblem Unit) = .error .unusablePath → excuse) :
    Usable excuse (do if !(← get).isDirectory p then throw problem) := by
  refine .get_bind fun t => ?_
  split
  · exact usable_throw fun same => only (same ▸ rfl)
  · exact usable_pure ()

theorem usable_ensureDirectory (only : holdsNull p = true → excuse) :
    Usable excuse (ensureDirectory p) := by
  refine (usable_makeDirectory only).attempt fun outcome known => ?_
  cases outcome with
  | ok u => exact usable_pure ()
  | error problem => exact usable_unlessDirectory known

theorem usable_ensureDirectoriesFrom {names : List String}
    (only : holdsNull ⟨names.reverse⟩ = true → excuse) :
    Usable excuse (ensureDirectoriesFrom names) := by
  induction names with
  | nil => exact usable_pure ()
  | cons name above ih =>
    refine (usable_makeDirectory only).attempt fun outcome known => ?_
    cases outcome with
    | ok u => exact usable_pure ()
    | error problem =>
      have above : Usable excuse (ensureDirectoriesFrom above) := by
        refine ih fun null => only (holdsNull_of_isBelow null ?_)
        rw [List.reverse_cons]
        exact List.isPrefixOf_iff_prefix.2 (List.prefix_append ..)
      cases problem with
      | missing => exact above.bind fun _ => usable_ensureDirectory only
      | _ => exact usable_unlessDirectory known

theorem usable_ensureDirectories (only : holdsNull p = true → excuse) :
    Usable excuse (ensureDirectories p) :=
  usable_ensureDirectoriesFrom (by rwa [List.reverse_reverse])

theorem usable_unlink (only : holdsNull p = true → excuse) : Usable excuse (unlink p) := by
  refine (usable_find fun t failed => only (locate_unusable failed)).bind fun q => ?_
  refine .get_bind fun t => ?_
  split
  · exact usable_throw fun same => nomatch same
  · exact usable_throw fun same => nomatch same
  · exact usable_modify _

theorem usable_rename (source : holdsNull p = true → excuse) (only : holdsNull q = true → excuse) :
    Usable excuse (rename p q) := by
  refine (usable_find fun t failed => source (locate_unusable failed)).bind fun p => ?_
  refine (usable_find fun t failed => only (locate_unusable failed)).bind fun q => ?_
  refine usable_unless (fun _ same => nomatch same) (.get_bind fun t => ?_)
  split
  · exact usable_throw fun same => nomatch same
  · exact .get_bind fun t => usable_unless (fun _ same => nomatch same) (usable_modify _)

/-! ## The operations of a build -/

theorem holdsNull_parent (null : holdsNull p.parent = true) : holdsNull p = true :=
  holdsNull_of_isBelow null p.isBelow_parent

theorem holdsNull_of_name (null : p.name.toList.contains '\x00' = true) : holdsNull p = true := by
  unfold Path.name at null
  cases last : p.segments.getLast? with
  | none => simp [last] at null
  | some name =>
    rw [last] at null
    exact List.any_eq_true.2 ⟨name, List.mem_of_getLast? last, null⟩

theorem holdsNull_temporary (null : holdsNull (temporary p) = true) : holdsNull p = true := by
  obtain ⟨segment, member, null⟩ := List.any_eq_true.1 null
  rcases List.mem_append.1 member with member | member
  · exact List.any_eq_true.2 ⟨segment, List.dropLast_subset _ member, null⟩
  · exact holdsNull_of_name (by simpa [List.mem_singleton.1 member] using null)

theorem usable_write (only : holdsNull p = true ∨ p = Path.root → excuse) (content : Bytes) :
    Usable excuse (write p content) := by
  have only' (null : holdsNull p = true) : excuse := only (Or.inl null)
  have temporary' (null : holdsNull (temporary p) = true) : excuse := only' (holdsNull_temporary null)
  refine (usable_ensureDirectories fun null => only' (holdsNull_parent null)).bind fun _ => ?_
  refine usable_unless (fun top _ => only (Or.inr top)) ?_
  exact (usable_writeFile temporary' content).bind fun _ => usable_rename temporary' only'

theorem usable_remove (only : holdsNull p = true → excuse) : Usable excuse (remove p) := by
  refine (usable_unlink only).attempt fun outcome known => ?_
  cases outcome with
  | ok u => exact usable_pure ()
  | error problem =>
    cases problem with
    | missing => exact usable_pure ()
    | unusablePath => exact usable_throw fun _ => known rfl
    | _ => exact usable_throw fun same => nomatch same

theorem usable_clear (only : holdsNull p = true → excuse) : Usable excuse (clear p) := by
  refine .get_bind fun t => ?_
  split
  · exact usable_unlink only
  · split
    · refine (usable_find fun t failed => only (locate_unusable failed)).bind fun q => ?_
      exact usable_modify _
    · exact usable_pure ()

theorem usable_link (target : Path) (only : holdsNull p = true → excuse) :
    Usable excuse (link target p) := by
  refine (usable_ensureDirectories fun null => only (holdsNull_parent null)).bind fun _ => ?_
  refine (usable_clear only).bind fun _ => .get_bind fun t => ?_
  have rest : Usable excuse (do
      let q ← find (·.locate p)
      modify (·.put q (.link (relativeText target p.parent)))) :=
    (usable_find fun t failed => only (locate_unusable failed)).bind fun q => usable_modify _
  dsimp only
  split
  · exact (usable_throw fun same => nomatch same).bind fun _ => rest
  · exact rest

theorem holdsNull_child_name {d : Path} (null : holdsNull (d.child p.name) = true) :
    holdsNull d = true ∨ holdsNull p = true := by
  obtain ⟨segment, member, null⟩ := List.any_eq_true.1 null
  rcases List.mem_append.1 member with member | member
  · exact Or.inl (List.any_eq_true.2 ⟨segment, member, null⟩)
  · rw [List.mem_singleton.1 member] at null
    exact Or.inr (holdsNull_of_name null)

theorem usable_copyFile {naming : Naming} {source : Path} (from_ : holdsNull source = true → excuse)
    (only : holdsNull p = true → excuse) : Usable excuse (copyFile naming source p) := by
  refine .get_bind fun t => ?_
  have only : holdsNull (if t.isDirectory p = true then p.child source.name else p) = true → excuse := by
    intro null
    split at null
    · exact (holdsNull_child_name null).elim only from_
    · exact only null
  dsimp only
  generalize (if t.isDirectory p = true then p.child source.name else p) = into at only ⊢
  have copied : Usable excuse (do let bytes ← content source; writeFile into bytes) :=
    (usable_content from_).bind fun bytes => usable_writeFile only bytes
  split
  · split
    · exact (usable_throw (by simp)).bind fun _ => copied
    · exact copied
  · exact copied

theorem usable_copyTree {depth : Nat} {source : Path} (from_ : holdsNull source = true → excuse)
    (only : holdsNull p = true → excuse) : Usable excuse (copyTree depth source p) := by
  cases depth with
  | zero => exact usable_throw fun same => nomatch same
  | succ depth =>
    refine (usable_find fun t failed => from_ (locateTarget_unusable failed)).bind fun place => ?_
    refine .get_bind fun t => (usable_ensureDirectory only).bind fun _ => ?_
    refine Usable.bind (Keeps.foldlM trivial fun failed name _ _ => ?_) fun failed => ?_
    · refine Usable.get_bind fun t => (usable_attempt _).bind fun outcome => ?_
      cases outcome <;> exact usable_pure _
    · split
      · exact usable_throw fun same => nomatch same
      · exact usable_pure ()

theorem usable_copy {source : Path} (from_ : holdsNull source = true → excuse)
    (only : holdsNull p = true → excuse) : Usable excuse (copy source p) := by
  refine (usable_ensureDirectories fun null => only (holdsNull_parent null)).bind fun _ => ?_
  refine .get_bind fun t => ?_
  split
  · exact usable_copyTree from_ only
  · exact usable_copyFile from_ only

theorem usable_resetDirectory (only : holdsNull p = true → excuse) :
    Usable excuse (resetDirectory p) := by
  refine (usable_clear only).bind fun _ => ?_
  refine (usable_makeDirectory only).attempt fun outcome known => ?_
  cases outcome with
  | ok u => exact usable_pure ()
  | error problem =>
    cases problem with
    | missing =>
      exact (usable_ensureDirectories fun null => only (holdsNull_parent null)).bind fun _ =>
        usable_makeDirectory only
    | unusablePath => exact usable_throw fun _ => known rfl
    | _ => exact usable_throw fun same => nomatch same

end Op

end Folio.FileTree
