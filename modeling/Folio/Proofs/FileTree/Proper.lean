import Folio.FileTree.Operation
import Folio.Proofs.FileTree.Below
import Folio.Proofs.Invariant

/-!
# Trees in normal form

All that a tree holds lies at paths in normal form, and operations whose paths are in normal form
leave it so (`Op.KeepsProper`): whatever links a path passes, it comes to a place in normal form
(`locate_isProper`).
-/

namespace Folio.FileTree

variable {t t' : FileTree} {p q : Path}

/-! ## Places -/

theorem root_isProper : Path.root.IsProper :=
  fun _ member => absurd member List.not_mem_nil

theorem linkStart_isProper {here : Path} (proper : here.IsProper) (w : Written) :
    (linkStart here w).IsProper := by
  unfold linkStart
  split
  · exact proper
  · exact root_isProper

theorem walkOn_isProper {followLast : Bool}
    {follow : Option (Path → List String → Except FileProblem Path)} {here : Path}
    {names : List String}
    (further : ∀ f, follow = some f → ∀ here names, here.IsProper →
      (∀ name ∈ names, IsSegment name) → f here names = .ok q → q.IsProper)
    (proper : here.IsProper) (segments : ∀ name ∈ names, IsSegment name)
    (reached : t.walkOn followLast follow here names = .ok q) : q.IsProper := by
  induction names generalizing here with
  | nil => exact Except.ok.inj reached ▸ proper
  | cons name rest ih =>
    obtain ⟨first, later⟩ := List.forall_mem_cons.1 segments
    unfold walkOn at reached
    split at reached
    · exact ih (proper.above here.isBelow_parent) later reached
    · next forth =>
      have next : (here.child name).IsProper := proper.child ⟨first, forth⟩
      split at reached
      · cases reached
      · split at reached
        · split at reached
          · exact Except.ok.inj reached ▸ next
          · cases reached
        · exact ih next later reached
        · split at reached
          · exact Except.ok.inj reached ▸ next
          · cases reached
        · split at reached
          · exact Except.ok.inj reached ▸ next
          · split at reached
            · cases reached
            · next f =>
              refine further f rfl _ _ (linkStart_isProper proper _) (fun other member => ?_) reached
              exact (List.mem_append.1 member).elim isSegment_of_mem (later other)

theorem walk_isProper {followLast : Bool} {links : Nat} {here : Path} {names : List String}
    (proper : here.IsProper) (segments : ∀ name ∈ names, IsSegment name)
    (reached : t.walk followLast links here names = .ok q) : q.IsProper := by
  induction links generalizing here names with
  | zero =>
    refine walkOn_isProper (fun f same => ?_) proper segments reached
    cases same
  | succ links ih =>
    refine walkOn_isProper (fun f same => ?_) proper segments reached
    cases same
    exact fun here names => ih

theorem locate_isProper (segmented : p.IsSegmented) (found : t.locate p = .ok q) : q.IsProper := by
  unfold locate at found
  split at found
  · cases found
  · exact walk_isProper root_isProper segmented found

theorem locateTarget_isProper (segmented : p.IsSegmented) (found : t.locateTarget p = .ok q) :
    q.IsProper := by
  unfold locateTarget at found
  split at found
  · cases found
  · exact walk_isProper root_isProper segmented found

/-! ## Trees -/

/-- Whether all that a tree holds lies at paths in normal form. -/
def IsProper (t : FileTree) : Prop :=
  ∀ q e, t.get? q = some e → q.IsProper

theorem isProper_iff : t.IsProper ↔ ∀ e ∈ t.entries, e.1.IsProper := by
  constructor
  · intro proper e member
    obtain ⟨there, found⟩ := exists_get?_of_mem member
    exact proper _ there found
  · intro proper q e found
    by_cases top : q = Path.root
    · exact top ▸ root_isProper
    · obtain ⟨e, member⟩ := exists_mem_entries found top
      exact proper _ member

instance (t : FileTree) : Decidable t.IsProper :=
  decidable_of_iff _ isProper_iff.symm

namespace IsProper

variable (whole : t.IsProper)

include whole

theorem put (place : p.IsProper) (e : Entry) : (t.put p e).IsProper := by
  intro q e' found
  rcases get?_put_cases found with ⟨rfl, -⟩ | before
  · exact place
  · exact whole q e' before

theorem erase (p : Path) : (t.erase p).IsProper :=
  fun q e found => whole q e (get?_of_erase found)

theorem prune (p : Path) : (t.prune p).IsProper :=
  fun q e found => whole q e (get?_of_prune found)

theorem of_mem_filesBelow (directory : q.IsProper) (listed : p ∈ t.filesBelow q) : p.IsProper := by
  have listed := (List.mem_filter.1 listed).1
  unfold pathsBelow at listed
  split at listed
  · split at listed
    · obtain ⟨names, below, rfl⟩ := List.mem_map.1 listed
      obtain ⟨-, e, member⟩ := mem_namesBelow.1 below
      exact directory.append fun name within =>
        isProper_iff.1 whole _ member name (List.mem_append_right _ within)
    · cases listed
  · cases listed

theorem of_mem_names {name : String} (listed : name ∈ t.names q) : IsSegment name ∧ name ≠ ".." := by
  obtain ⟨names, below, single⟩ := List.mem_filterMap.1 listed
  obtain ⟨-, e, member⟩ := mem_namesBelow.1 below
  refine isProper_iff.1 whole _ member name (List.mem_append_right _ ?_)
  split at single
  · cases single
    exact List.mem_singleton_self name
  · cases single

end IsProper

/-! ## Operations -/

namespace Op

variable {α : Type} {source : Path}

/-- Whether an operation leaves a tree in normal form so, however it ends. -/
abbrev KeepsProper (x : Op α) : Prop :=
  Maintains IsProper x

theorem proper_find {search : FileTree → Except FileProblem Path}
    (ends : ∀ t q, search t = .ok q → q.IsProper) :
    Keeps IsProper (fun _ _ => True) Path.IsProper (find search) := by
  refine .intro (fun t q t' whole ran => ?_) fun t problem t' whole ran =>
    ⟨find_error ran ▸ whole, trivial⟩
  obtain ⟨found, rfl⟩ := find_ok_iff.1 ran
  exact ⟨whole, ends t q found⟩

theorem proper_makeDirectory (proper : p.IsProper) : KeepsProper (makeDirectory p) := by
  refine (proper_find fun _ _ => locate_isProper proper.segmented).bind fun q place => ?_
  refine .get_bind fun t _ => maintains_unless (.modify fun t whole => whole.put place _)

theorem proper_ensureDirectories (proper : p.IsProper) : KeepsProper (ensureDirectories p) :=
  maintains_ensureDirectories fun _ upward => proper_makeDirectory (proper.above upward)

theorem proper_writeFile (proper : p.IsProper) (content : Bytes) :
    KeepsProper (writeFile p content) := by
  refine (proper_find fun _ _ => locateTarget_isProper proper.segmented).bind fun q place => ?_
  refine .get_bind fun t _ => maintains_unless (.modify fun t whole => whole.put place _)

theorem proper_unlink (p : Path) : KeepsProper (unlink p) := by
  refine (maintains_find _).bind fun q _ => .get_bind fun t _ => ?_
  split
  · exact maintains_throw _
  · exact maintains_throw _
  · exact .modify fun t whole => whole.erase q

theorem proper_rename (p : Path) (proper : q.IsProper) : KeepsProper (rename p q) := by
  refine (maintains_find _).bind fun from_ _ => ?_
  refine (proper_find fun _ _ => locate_isProper proper.segmented).bind fun into place => ?_
  refine maintains_unless (.get_bind fun t _ => ?_)
  split
  · exact maintains_throw _
  · refine .get_bind fun t _ => maintains_unless (.modify fun t whole => ?_)
    exact (whole.erase from_).put place _

theorem proper_removeTree (p : Path) : KeepsProper (removeTree p) :=
  (maintains_find _).bind fun q _ => .modify fun _ whole => whole.prune q

theorem proper_write (proper : p.IsProper) (content : Bytes) : KeepsProper (write p content) := by
  have beside := temporary_isProper proper
  refine (proper_ensureDirectories (proper.above p.isBelow_parent)).bind fun _ _ => maintains_unless ?_
  exact (proper_writeFile beside content).bind fun _ _ => proper_rename _ proper

theorem proper_remove (p : Path) : KeepsProper (remove p) := by
  refine (maintains_attempt (proper_unlink p)).bind fun outcome _ => ?_
  split
  · exact .pure trivial
  · exact .pure trivial
  · exact maintains_throw _

theorem proper_clear (p : Path) : KeepsProper (clear p) := by
  refine .get_bind fun t _ => ?_
  split
  · exact proper_unlink p
  · split
    · exact proper_removeTree p
    · exact .pure trivial

theorem proper_link (target : Path) (proper : p.IsProper) : KeepsProper (link target p) := by
  refine (proper_ensureDirectories (proper.above p.isBelow_parent)).bind fun _ _ => ?_
  refine (proper_clear p).bind fun _ _ => .get_bind fun t _ => maintains_unless ?_
  refine (proper_find fun _ _ => locate_isProper proper.segmented).bind fun q place => ?_
  exact .modify fun t whole => whole.put place _

theorem proper_copyFile (naming : Naming) (proper : p.IsProper)
    (name : IsSegment source.name ∧ source.name ≠ "..") :
    KeepsProper (copyFile naming source p) := by
  refine .get_bind fun t _ => ?_
  have ready : Path.IsProper (if t.isDirectory p = true then p.child source.name else p) := by
    split
    · exact proper.child name
    · exact proper
  dsimp only
  generalize (if t.isDirectory p = true then p.child source.name else p) = into at ready ⊢
  have copied : KeepsProper (do
      let bytes ← content source
      writeFile into bytes) :=
    (maintains_content source).bind fun bytes _ => proper_writeFile ready bytes
  split
  · exact maintains_unless copied
  · exact copied

theorem proper_copyTree {depth : Nat} (proper : p.IsProper) :
    KeepsProper (copyTree depth source p) := by
  induction depth generalizing source p with
  | zero => exact maintains_throw _
  | succ depth ih =>
    refine (maintains_find _).bind fun place _ => .get_bind fun t whole => ?_
    refine (maintains_ensureDirectory (proper_makeDirectory proper)).bind fun _ _ => ?_
    refine Keeps.bind (Q := fun _ => True) (.foldlM trivial fun failed name _ listed => ?_) fun failed _ => ?_
    · have named := whole.of_mem_names listed
      have proper' := proper.child named
      refine .get_bind fun t _ => (maintains_attempt ?_).bind fun outcome _ => ?_
      · split
        · exact ih proper'
        · refine proper_copyFile .entries proper' ?_
          simpa [Path.child, Path.name] using named
      · cases outcome <;> exact .pure trivial
    · split
      · exact maintains_throw _
      · exact .pure trivial

theorem proper_copy (proper : p.IsProper) (name : IsSegment source.name ∧ source.name ≠ "..") :
    KeepsProper (copy source p) := by
  refine (proper_ensureDirectories (proper.above p.isBelow_parent)).bind fun _ _ => ?_
  refine .get_bind fun t _ => ?_
  split
  · exact proper_copyTree proper
  · exact proper_copyFile .paths proper name

theorem proper_resetDirectory (proper : p.IsProper) : KeepsProper (resetDirectory p) := by
  refine (proper_clear p).bind fun _ _ => ?_
  refine (maintains_attempt (proper_makeDirectory proper)).bind fun outcome _ => ?_
  split
  · exact .pure trivial
  · exact (proper_ensureDirectories (proper.above p.isBelow_parent)).bind fun _ _ =>
      proper_makeDirectory proper
  · exact maintains_throw _

end Op

end Folio.FileTree
