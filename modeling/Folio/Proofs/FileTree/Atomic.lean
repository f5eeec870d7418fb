import Folio.Proofs.FileTree.Unusable
import Folio.Proofs.FileTree.Write

/-!
# Writes are atomic in their place

The place of a write is that of the path's name in the directory to which the path's parent leads
once the directories above are made, whatever links and `..` are passed. A write that ends well puts
a file there and changes nothing else but for these directories; one that stops leaves all that was
there as it was (`Op.write_atomic`). The path itself leads to the file unless the way to its parent
passes a link in that very place, which the write replaces (`Op.write_misses`).
-/

namespace Folio.FileTree

variable {t t' : FileTree} {p q d : Path}

/-! ## The last step of a path -/

/-- Whether a path and all above it are directories. -/
def Stands (t : FileTree) (p : Path) : Prop :=
  ∀ q, p.isBelow q = true → t.get? q = some .directory

namespace Stands

theorem directory (stands : t.Stands p) : t.get? p = some .directory :=
  stands p (Path.isBelow_refl p)

theorem root : t.Stands Path.root := by
  intro q above
  rw [Path.eq_of_isBelow (Path.root_append q ▸ Path.isBelow_append ..) above]
  rfl

theorem parent (stands : t.Stands p) : t.Stands p.parent :=
  fun q above => stands q (Path.isBelow_trans p.isBelow_parent above)

theorem child {name : String} (stands : t.Stands p)
    (found : t.get? (p.child name) = some .directory) : t.Stands (p.child name) := by
  intro q above
  rcases Path.eq_or_isBelow_parent above with rfl | above
  · exact found
  · exact stands q (by simpa [Path.parent, Path.child] using above)

theorem linkStart (stands : t.Stands p) (w : Written) : t.Stands (linkStart p w) := by
  unfold FileTree.linkStart
  split
  · exact stands
  · exact root

end Stands

section Last

variable {followLast : Bool} {here : Path} {names : List String} {name : String}
  {follow follow' : Option (Path → List String → Except FileProblem Path)}

theorem walkOn_split (stands : t.Stands here)
    (onward : ∀ f here names, follow = some f → t.Stands here → f here (names ++ [name]) = .ok q →
      ∃ f' d, follow' = some f' ∧ f' here names = .ok d ∧ t.Stands d ∧
        ∃ rest, t.walkOn followLast rest d [name] = .ok q)
    (reached : t.walkOn followLast follow here (names ++ [name]) = .ok q) :
    ∃ d, t.walkOn true follow' here names = .ok d ∧ t.Stands d ∧
      ∃ rest, t.walkOn followLast rest d [name] = .ok q := by
  induction names generalizing here with
  | nil => exact ⟨here, rfl, stands, follow, reached⟩
  | cons first rest ih =>
    -- the last name is still to come, so the walk follows links here whatever it does in the end
    have more : rest ++ [name] ≠ [] := by simp
    rw [List.cons_append] at reached
    unfold walkOn at reached
    rw [walkOn]
    split at reached
    · next back =>
      rw [if_pos back]
      exact ih stands.parent reached
    · next forth =>
      rw [if_neg forth]
      split at reached
      · cases reached
      · next short =>
        rw [if_neg short]
        split at reached
        · cases reached
        · next found => exact ih (stands.child found) reached
        · cases reached
        · next target found =>
          rw [if_neg fun last => more last.1] at reached
          split at reached
          · cases reached
          · next f =>
            dsimp only at reached
            rw [← List.append_assoc] at reached
            obtain ⟨f', d, rfl, walked, stands', last⟩ :=
              onward f _ _ rfl (stands.linkStart _) reached
            exact ⟨d, by simpa using walked, stands', last⟩

/-- A walk comes to the directory of its last name before the last step. -/
theorem walk_split {links : Nat} (stands : t.Stands here)
    (reached : t.walk followLast links here (names ++ [name]) = .ok q) :
    ∃ d, t.walk true links here names = .ok d ∧ t.Stands d ∧
      ∃ rest, t.walkOn followLast rest d [name] = .ok q := by
  induction links generalizing here names with
  | zero =>
    refine walkOn_split stands (fun f here names same stands walked => ?_) reached
    cases same
  | succ links ih =>
    refine walkOn_split stands (fun f here names same stands walked => ?_) reached
    cases same
    obtain ⟨d, walked, stands', last⟩ := ih stands walked
    exact ⟨_, d, rfl, walked, stands', last⟩

/-- The last step of a walk leads to its name, unless it follows a link there. -/
theorem walkOn_last (forth : name ≠ "..") (reached : t.walkOn followLast follow d [name] = .ok q)
    (plain : followLast = true → ¬ t.HasLink (d.child name)) :
    isTooLong name = false ∧ q = d.child name := by
  unfold walkOn at reached
  rw [if_neg forth] at reached
  split at reached
  · cases reached
  · next short =>
    refine ⟨by simpa using short, ?_⟩
    split at reached
    · cases reached; rfl
    · cases reached; rfl
    · cases reached; rfl
    · next target found =>
      cases followLast with
      | false => cases reached; rfl
      | true => exact absurd ⟨target, found⟩ (plain rfl)

theorem walkOn_concat (directory : t.get? d = some .directory) (forth : name ≠ "..")
    (short : isTooLong name = false) (plain : followLast = true → ¬ t.HasLink (d.child name))
    (onward : ∀ f here names, follow = some f → f here names = .ok d →
      ∃ f', follow' = some f' ∧ f' here (names ++ [name]) = .ok (d.child name))
    (reached : t.walkOn true follow here names = .ok d) :
    t.walkOn followLast follow' here (names ++ [name]) = .ok (d.child name) := by
  induction names generalizing here with
  | nil =>
    cases reached
    rw [List.nil_append, walkOn, if_neg forth, if_neg (by simp [short])]
    cases found : t.get? (d.child name) with
    | none => rfl
    | some e =>
      cases e with
      | file content => rfl
      | directory => rfl
      | link target =>
        cases followLast with
        | false => rfl
        | true => exact absurd ⟨target, found⟩ (plain rfl)
  | cons first rest ih =>
    have more : rest ++ [name] ≠ [] := by simp
    rw [List.cons_append]
    unfold walkOn at reached ⊢
    split at reached
    · next back =>
      rw [if_pos back]
      exact ih reached
    · next forth =>
      rw [if_neg forth]
      split at reached
      · cases reached
      · next short =>
        rw [if_neg short]
        split at reached
        · next found =>
          split at reached
          · cases reached
            cases found.symm.trans directory
          · cases reached
        · exact ih reached
        · next content found =>
          split at reached
          · cases reached
            cases found.symm.trans directory
          · cases reached
        · next target found =>
          rw [if_neg fun last => more last.1]
          rw [if_neg (by simp)] at reached
          split at reached
          · cases reached
          · next f =>
            obtain ⟨f', rfl, walked⟩ := onward f _ _ rfl reached
            rw [List.append_assoc] at walked
            exact walked

/-- A walk goes on from a directory that it comes to, whatever links it has passed. -/
theorem walk_concat {links : Nat} (directory : t.get? d = some .directory) (forth : name ≠ "..")
    (short : isTooLong name = false) (plain : followLast = true → ¬ t.HasLink (d.child name))
    (reached : t.walk true links here names = .ok d) :
    t.walk followLast links here (names ++ [name]) = .ok (d.child name) := by
  induction links generalizing here names with
  | zero =>
    refine walkOn_concat directory forth short plain (fun f here names same walked => ?_) reached
    cases same
  | succ links ih =>
    refine walkOn_concat directory forth short plain (fun f here names same walked => ?_) reached
    cases same
    exact ⟨_, rfl, ih walked⟩

end Last

/-! ## The directory of a path -/

theorem usable_of_locate (located : t.locate p = .ok q) : ¬ holdsNull p = true := by
  intro null
  rw [locate, if_pos null] at located
  cases located

section Seat

variable (below : p ≠ Path.root)

include below

theorem segments_eq : p.segments = p.parent.segments ++ [p.name] :=
  congrArg Path.segments (Path.child_parent below).symm

theorem seat_of_walk {followLast : Bool} (usable : ¬ holdsNull p = true)
    (reached : t.walk followLast maxLinks Path.root p.segments = .ok q) :
    ∃ d, t.locateTarget p.parent = .ok d ∧ t.Stands d ∧
      ∃ rest, t.walkOn followLast rest d [p.name] = .ok q := by
  rw [segments_eq below] at reached
  obtain ⟨d, walked, stands, last⟩ := walk_split .root reached
  refine ⟨d, ?_, stands, last⟩
  rw [locateTarget, if_neg fun null => usable (Op.holdsNull_parent null), walked]

/-- What can be located is a name in the directory that the parent leads to. -/
theorem locate_seat (located : t.locate p = .ok q) :
    ∃ d, t.locateTarget p.parent = .ok d ∧ t.Stands d ∧
      ∃ rest, t.walkOn false rest d [p.name] = .ok q := by
  unfold locate at located
  split at located
  · cases located
  · next usable => exact seat_of_walk below usable located

theorem locateTarget_seat (reached : t.locateTarget p = .ok q) :
    ∃ d, t.locateTarget p.parent = .ok d ∧ t.Stands d ∧
      ∃ rest, t.walkOn true rest d [p.name] = .ok q := by
  unfold locateTarget at reached
  split at reached
  · cases reached
  · next usable => exact seat_of_walk below usable reached

theorem locate_eq_child (forth : p.name ≠ "..") (seat : t.locateTarget p.parent = .ok d)
    (located : t.locate p = .ok q) : isTooLong p.name = false ∧ q = d.child p.name := by
  obtain ⟨d', seat', -, rest, last⟩ := locate_seat below located
  cases seat.symm.trans seat'
  exact walkOn_last forth last fun follows => absurd follows Bool.false_ne_true

/-- A path leads to its name in the directory of its parent, unless that is a link. -/
theorem locateTarget_of_seat (usable : ¬ holdsNull p = true) (forth : p.name ≠ "..")
    (short : isTooLong p.name = false) (seat : t.locateTarget p.parent = .ok d)
    (directory : t.get? d = some .directory) (plain : ¬ t.HasLink (d.child p.name)) :
    t.locateTarget p = .ok (d.child p.name) := by
  rw [locateTarget, if_neg fun null => usable (Op.holdsNull_parent null)] at seat
  rw [locateTarget, if_neg usable, segments_eq below]
  exact walk_concat directory forth short (fun _ => plain) seat

end Seat

/-- A path goes on to lead to a directory where all directories and links stay. -/
theorem KeepsWays.locateTarget (ways : KeepsWays t t') (directory : t.get? q = some .directory)
    (reached : t.locateTarget p = .ok q) : t'.locateTarget p = .ok q :=
  locateTarget_persists ways directory (fun _ same => Entry.noConfusion same) reached

/-! ## The directories above -/

/-- Whether a tree has become another in which directories were made to which a path leads, or a
path above it. -/
structure Paved (d : Path) (t t' : FileTree) : Prop where
  kept : ∀ q e, t.get? q = some e → t'.get? q = some e
  fresh : ∀ q e, t'.get? q = some e → t.get? q = some e ∨
    e = .directory ∧ ∃ above, d.isBelow above = true ∧ t'.locateTarget above = .ok q

namespace Paved

theorem refl (d : Path) (t : FileTree) : Paved d t t :=
  ⟨fun _ _ found => found, fun _ _ found => Or.inl found⟩

theorem hasLink (paved : Paved d t t') (link : t'.HasLink q) : t.HasLink q := by
  obtain ⟨target, found⟩ := link
  rcases paved.fresh q _ found with found | ⟨same, -⟩
  · exact ⟨target, found⟩
  · cases same

/-- One more directory, at a path or above. -/
theorem makeDirectory {u : FileTree} (paved : Paved d t u) (above : d.isBelow p = true)
    (ran : Op.makeDirectory p u = .ok () t') : Paved d t t' := by
  obtain ⟨q, located, free, rfl⟩ := Op.makeDirectory_place ran
  have ways : KeepsWays u (u.put q .directory) := fun r e found _ => get?_put_of_free free found
  have reached : (u.put q .directory).locateTarget p = .ok q := by
    have below : p ≠ Path.root := by
      rintro rfl
      cases located
      cases free
    obtain ⟨seat, led, stands, rest, last⟩ := locate_seat below located
    -- a step back comes to a directory, and there is none yet
    have forth : p.name ≠ ".." := by
      intro back
      rw [back] at last
      cases last
      cases (stands.parent.directory).symm.trans free
    obtain ⟨short, rfl⟩ := locate_eq_child below forth led located
    refine locateTarget_of_seat below (usable_of_locate located) forth short
      (ways.locateTarget stands.directory led) (get?_put_of_free free stands.directory) ?_
    rintro ⟨target, link⟩
    rw [get?_put_self (Path.child_ne_root _ _)] at link
    cases link
  refine ⟨fun r e found => get?_put_of_free free (paved.kept r e found), fun r e found => ?_⟩
  rcases get?_put_cases found with ⟨rfl, rfl⟩ | found
  · exact Or.inr ⟨rfl, p, above, reached⟩
  · rcases paved.fresh r e found with before | ⟨rfl, higher, upward, led⟩
    · exact Or.inl before
    · exact Or.inr ⟨rfl, higher, upward, ways.locateTarget found led⟩

end Paved

/-- The tree once the directories above a path are made, as far as that goes. -/
def paved (t : FileTree) (p : Path) : FileTree :=
  match Op.ensureDirectories p.parent t with
  | .ok _ u | .error _ u => u

theorem paved_paves (t : FileTree) (p : Path) : Paved p.parent t (t.paved p) := by
  have make (q : Path) (above : p.parent.isBelow q = true) :
      Op.Maintains (Paved p.parent t) (Op.makeDirectory q) :=
    .intro (fun _ _ _ paved ran => ⟨paved.makeDirectory above ran, trivial⟩) fun _ _ _ paved ran =>
      ⟨Op.makeDirectory_error ran ▸ paved, trivial⟩
  have made := Op.maintains_ensureDirectories make
  unfold paved
  cases ran : Op.ensureDirectories p.parent t with
  | ok _ u => exact (made.ok (.refl _ t) ran).1
  | error problem u => exact (made.error (.refl _ t) ran).1

/-- Whether a directory is made at `q`, where nothing was, for a path above `p`. -/
def Paves (t : FileTree) (p q : Path) : Prop :=
  t.get? q = none ∧ (t.paved p).get? q = some .directory ∧
    ∃ above, p.parent.isBelow above = true ∧ (t.paved p).locateTarget above = .ok q

theorem get?_paved (t : FileTree) (p q : Path) :
    (t.paved p).get? q = t.get? q ∨ (t.paved p).get? q = some .directory ∧ t.Paves p q := by
  have paved := t.paved_paves p
  cases before : t.get? q with
  | some e => exact Or.inl (paved.kept q e before)
  | none =>
    cases found : (t.paved p).get? q with
    | none => exact Or.inl rfl
    | some e =>
      rcases paved.fresh q e found with there | ⟨rfl, above⟩
      · cases before.symm.trans there
      · exact Or.inr ⟨rfl, before, found, above⟩

/-! ## Writing -/

/-- What a tree has become once some content was put in the place of a path, in a directory. -/
structure Replaced (p : Path) (content : Bytes) (d : Path) (t t' : FileTree) : Prop where
  /-- The directory is where the path's parent leads. -/
  seat : (t.paved p).locateTarget p.parent = .ok d
  directory : (t.paved p).get? d = some .directory
  /-- No directory is replaced. -/
  former : (t.paved p).get? (d.child p.name) ≠ some .directory
  file : t'.get? (d.child p.name) = some (.file content)
  /-- The path leads to the file if its parent is reached without the former entry there. -/
  named : t'.target? p = some (.file content) ↔
    ((t.paved p).erase (d.child p.name)).locateTarget p.parent = .ok d
  gone : t'.get? (d.child (Op.temporary p).name) = none
  /-- Where a link in the place led all is as it was. -/
  target : t.HasLink (d.child p.name) → ∀ q, (t.paved p).locateTarget p = .ok q →
    t'.get? q = (t.paved p).get? q
  others : ∀ q, q ≠ d.child p.name →
    t'.get? q = t.get? q ∨ t'.get? q = some .directory ∧ t.Paves p q

/-- Unless it replaced a link the path leads to the file. -/
theorem Replaced.named_of_plain {content : Bytes} (replaced : Replaced p content d t t')
    (plain : ¬ t.HasLink (d.child p.name)) : t'.target? p = some (.file content) := by
  have ways : KeepsWays (t.paved p) ((t.paved p).erase (d.child p.name)) := by
    intro q e found other
    rw [get?_erase_of_ne, found]
    rintro rfl
    cases e with
    | file content => exact other content rfl
    | link target => exact plain ((t.paved_paves p).hasLink ⟨target, found⟩)
    | directory => exact replaced.former found
  exact replaced.named.2 (ways.locateTarget replaced.directory replaced.seat)

/-- What a tree has become where a write stopped: all that was there is, and what is new are
directories above the path and the temporary file. -/
structure Spared (p : Path) (content : Bytes) (t t' : FileTree) : Prop where
  kept : ∀ q e, t.get? q = some e → t'.get? q = some e
  fresh : ∀ q e, t'.get? q = some e → t.get? q = some e ∨ e = .directory ∧ t.Paves p q ∨
    e = .file content ∧ ∃ d, (t.paved p).locateTarget p.parent = .ok d ∧
      q = d.child (Op.temporary p).name

namespace Op

theorem name_temporary (p : Path) : (temporary p).name = "." ++ p.name ++ ".tmp" := by
  simp [temporary, Path.withName, Path.name]

theorem temporary_ne_root (p : Path) : temporary p ≠ Path.root :=
  Path.child_ne_root p.parent _

/-- The temporary file lies beside the place of the path. -/
theorem beside_ne (d p : Path) : d.child (temporary p).name ≠ d.child p.name := by
  intro same
  have lengths := congrArg (fun p : Path => p.name.toList.length) same
  simp [Path.name_child, name_temporary] at lengths
  omega

theorem name_temporary_forth (p : Path) : (temporary p).name ≠ ".." := by
  intro same
  have lengths := congrArg (fun s : String => s.toList.length) ((name_temporary p).symm.trans same)
  simp at lengths

section Write

variable {u : FileTree} {content : Bytes}

/-- The temporary file comes to lie beside the place of the path, if nothing but a directory that
was made for the path may be in the way. -/
theorem writeTemporary_place (plain : ∀ d, u.locateTarget p.parent = .ok d →
      ¬ u.HasLink (d.child (temporary p).name))
    (ran : writeFile (temporary p) content u = .ok () t') :
    ∃ d, u.locateTarget p.parent = .ok d ∧ u.Stands d ∧
      u.get? (d.child (temporary p).name) ≠ some .directory ∧
      t' = u.put (d.child (temporary p).name) (.file content) := by
  obtain ⟨q, located, free, rfl⟩ := writeFile_place ran
  obtain ⟨d, seat, stands, rest, last⟩ := locateTarget_seat (temporary_ne_root p) located
  rw [parent_temporary] at seat
  obtain ⟨-, rfl⟩ := walkOn_last (name_temporary_forth p) last fun _ => plain d seat
  exact ⟨d, seat, stands, free, rfl⟩

/-- The temporary file is moved to the place of the path and leaves nothing where it was. -/
theorem renameTemporary_place (below : p ≠ Path.root) (seat : u.locateTarget p.parent = .ok d)
    (stands : u.Stands d) (free : u.get? (d.child (temporary p).name) = none)
    (ran : rename (temporary p) p (u.put (d.child (temporary p).name) (.file content)) = .ok () t') :
    p.name ≠ ".." ∧ ¬ holdsNull p = true ∧ isTooLong p.name = false ∧
      u.get? (d.child p.name) ≠ some .directory ∧
      t'.get? (d.child p.name) = some (.file content) ∧
      ∀ q, q ≠ d.child p.name → t'.get? q = u.get? q := by
  obtain ⟨p', q', e, from_, into, forth, there, unlike, rfl⟩ := rename_places ran
  have ways : KeepsWays u (u.put (d.child (temporary p).name) (.file content)) :=
    fun q e found _ => get?_put_of_free free found
  have seat' := ways.locateTarget stands.directory seat
  have usable := usable_of_locate into
  obtain ⟨short, rfl⟩ := locate_eq_child below forth seat' into
  obtain ⟨-, rfl⟩ := locate_eq_child (temporary_ne_root p) (name_temporary_forth p)
    ((parent_temporary p).symm ▸ seat') from_
  rw [get?_put_self (Path.child_ne_root _ _)] at there
  cases there
  rw [get?_put_of_ne (beside_ne d p).symm] at unlike
  refine ⟨forth, usable, short, unlike, get?_put_self (Path.child_ne_root _ _) _, fun q other => ?_⟩
  rw [get?_put_of_ne other]
  by_cases same : q = d.child (temporary p).name
  · rw [same, get?_erase_self (Path.child_ne_root _ _), free]
  · rw [get?_erase_of_ne same, get?_put_of_ne same]

end Write

end Op

/-- A path leads to the file in its place if its parent is reached past what was there before. -/
theorem named_iff {u : FileTree} {content : Bytes} (below : p ≠ Path.root)
    (seat : u.locateTarget p.parent = .ok d) (stands : u.Stands d) (forth : p.name ≠ "..")
    (usable : ¬ holdsNull p = true) (short : isTooLong p.name = false)
    (file : t'.get? (d.child p.name) = some (.file content))
    (others : ∀ q, q ≠ d.child p.name → t'.get? q = u.get? q) :
    t'.target? p = some (.file content) ↔
      (u.erase (d.child p.name)).locateTarget p.parent = .ok d := by
  have outside : d ≠ d.child p.name := fun same =>
    Path.append_ne_self d (List.cons_ne_nil p.name []) same.symm
  constructor
  · intro named
    obtain ⟨q, reached⟩ : ∃ q, t'.locateTarget p = .ok q := by
      unfold target? at named
      cases reached : t'.locateTarget p with
      | ok q => exact ⟨q, rfl⟩
      | error problem => rw [reached] at named; cases named
    obtain ⟨d', seat', stands', -⟩ := locateTarget_seat below reached
    -- the file in the place is no part of a way, so the way is the same without it
    have back : KeepsWays t' (u.erase (d.child p.name)) := by
      intro q e found other
      have apart : q ≠ d.child p.name := by
        rintro rfl
        exact other content (Option.some.inj (found.symm.trans file))
      rw [get?_erase_of_ne apart, ← others q apart, found]
    have around := back.locateTarget stands'.directory seat'
    have less : KeepsWays (u.erase (d.child p.name)) u := fun q e found _ => get?_of_erase found
    have there := back d' _ stands'.directory fun _ => Entry.noConfusion
    have same := less.locateTarget there around
    cases seat.symm.trans same
    exact around
  · intro around
    have ways : KeepsWays (u.erase (d.child p.name)) t' := by
      intro q e found _
      have apart : q ≠ d.child p.name := by
        rintro rfl
        rw [get?_erase_self (Path.child_ne_root _ _)] at found
        cases found
      rw [others q apart, get?_of_erase found]
    have directory : (u.erase (d.child p.name)).get? d = some .directory := by
      rw [get?_erase_of_ne outside, stands.directory]
    have seat' := ways.locateTarget directory around
    have plain : ¬ t'.HasLink (d.child p.name) := by
      rintro ⟨target, link⟩
      cases file.symm.trans link
    have reached := locateTarget_of_seat below usable forth short seat'
      (ways d _ directory fun _ => Entry.noConfusion) plain
    rw [target?, reached]
    exact file

namespace Op

variable {content : Bytes}

theorem paved_of_ok {u : FileTree} {a : Unit} (made : ensureDirectories p.parent t = .ok a u) :
    t.paved p = u := by
  unfold paved
  rw [made]

theorem paved_of_error {u : FileTree} {problem : FileProblem}
    (stopped : ensureDirectories p.parent t = .error problem u) : t.paved p = u := by
  unfold paved
  rw [stopped]

theorem spared_paved (t : FileTree) (p : Path) (content : Bytes) :
    Spared p content t (t.paved p) := by
  refine ⟨(t.paved_paves p).kept, fun q e found => ?_⟩
  rcases t.get?_paved p q with same | ⟨same, paves⟩
  · exact Or.inl (same ▸ found)
  · exact Or.inr (Or.inl ⟨Option.some.inj (found.symm.trans same), paves⟩)

section Atomic

variable (fresh : ∀ d, (t.paved p).locateTarget p.parent = .ok d →
  t.get? (d.child (temporary p).name) = none)

include fresh

theorem not_hasLink_beside (d : Path) (seat : (t.paved p).locateTarget p.parent = .ok d) :
    ¬ (t.paved p).HasLink (d.child (temporary p).name) := by
  intro link
  obtain ⟨target, there⟩ := (t.paved_paves p).hasLink link
  cases (fresh d seat).symm.trans there

/-- Beside the place of the path there is nothing unless a directory that was made for the path has
the name of the temporary file. -/
theorem get?_beside (seat : (t.paved p).locateTarget p.parent = .ok d)
    (free : (t.paved p).get? (d.child (temporary p).name) ≠ some .directory) :
    (t.paved p).get? (d.child (temporary p).name) = none := by
  rcases t.get?_paved p (d.child (temporary p).name) with same | ⟨same, -⟩
  · exact same.trans (fresh d seat)
  · exact absurd same free

theorem replaced_of_write (ran : write p content t = .ok () t') :
    ∃ d, Replaced p content d t t' := by
  obtain ⟨_, u, made, ran⟩ := bind_ok_iff.1 ran
  obtain rfl := paved_of_ok made
  obtain ⟨below, ran⟩ := unless_ok ran
  obtain ⟨_, _, written, ran⟩ := bind_ok_iff.1 ran
  obtain ⟨d, seat, stands, free, rfl⟩ := writeTemporary_place (not_hasLink_beside fresh) written
  have empty := get?_beside fresh seat free
  obtain ⟨forth, usable, short, former, file, others⟩ :=
    renameTemporary_place below seat stands empty ran
  have named := named_iff below seat stands forth usable short file others
  refine ⟨d, seat, stands.directory, former, file, named, ?_, fun link q reached => ?_,
    fun q other => ?_⟩
  · rw [others _ (beside_ne d p), empty]
  · refine others q ?_
    rintro rfl
    obtain ⟨target, there⟩ := link
    exact locateTarget_linkless reached _ (Path.isBelow_refl _)
      ⟨target, (t.paved_paves p).kept _ _ there⟩
  · rw [others q other]
    exact t.get?_paved p q

theorem spared_of_write {problem : FileProblem} (ran : write p content t = .error problem t') :
    Spared p content t t' := by
  have spared := spared_paved t p content
  rcases bind_error_iff.1 ran with stopped | ⟨_, u, made, ran⟩
  · exact paved_of_error stopped ▸ spared
  · obtain rfl := paved_of_ok made
    rcases unless_error ran with rfl | ran
    · exact spared
    · rcases bind_error_iff.1 ran with stopped | ⟨_, _, written, ran⟩
      · exact writeFile_error stopped ▸ spared
      · obtain ⟨d, seat, stands, free, rfl⟩ :=
          writeTemporary_place (not_hasLink_beside fresh) written
        obtain rfl := rename_error ran
        have empty := get?_beside fresh seat free
        refine ⟨fun q e found => get?_put_of_free empty (spared.kept q e found),
          fun q e found => ?_⟩
        rcases get?_put_cases found with ⟨rfl, rfl⟩ | found
        · exact Or.inr (Or.inr ⟨rfl, d, seat, rfl⟩)
        · exact spared.fresh q e found

end Atomic

/-- A write puts a file in its place at once, if nothing has the name of the temporary file beside
it: what was there before is replaced where the write ends well, and stays where it stops. -/
theorem write_atomic (fresh : ∀ d, (t.paved p).locateTarget p.parent = .ok d →
      t.get? (d.child (temporary p).name) = none) :
    match write p content t with
    | .ok _ t' => ∃ d, Replaced p content d t t'
    | .error _ t' => Spared p content t t' := by
  cases ran : write p content t with
  | ok _ t' => exact replaced_of_write fresh ran
  | error problem t' => exact spared_of_write fresh ran

/-- A file with a link to it. -/
def pointed : FileTree :=
  ⟨[(⟨["f"]⟩, .file [97]), (⟨["l"]⟩, .link "f")]⟩

theorem write_atomic_of_pointed :
    (∀ d, (pointed.paved ⟨["l"]⟩).locateTarget Path.root = .ok d →
      pointed.get? (d.child (temporary ⟨["l"]⟩).name) = none) ∧
    ∃ d t', write ⟨["l"]⟩ [100] pointed = .ok () t' ∧ Replaced ⟨["l"]⟩ [100] d pointed t' := by
  have fresh (d : Path) (seat : (pointed.paved ⟨["l"]⟩).locateTarget Path.root = .ok d) :
      pointed.get? (d.child (temporary ⟨["l"]⟩).name) = none := by
    cases seat
    decide
  have ran : write ⟨["l"]⟩ [100] pointed =
      .ok () ⟨[(⟨["f"]⟩, .file [97]), (⟨["l"]⟩, .file [100])]⟩ := by rfl
  have replaced := @write_atomic pointed ⟨["l"]⟩ [100] fresh
  rw [ran] at replaced
  obtain ⟨d, replaced⟩ := replaced
  exact ⟨fresh, d, _, ran, replaced⟩

/-- A link that leads back to its own directory. -/
def ringed : FileTree :=
  ⟨[(⟨["x"]⟩, .link ".")]⟩

/-- A path that passes the link in its own place does not lead to the file that is put there. -/
theorem write_misses :
    ¬ ∀ (t : FileTree) (p : Path) (content : Bytes) (t' : FileTree),
      (∀ d, (t.paved p).locateTarget p.parent = .ok d →
        t.get? (d.child (temporary p).name) = none) →
      write p content t = .ok () t' → t'.target? p = some (.file content) := by
  intro always
  have ran : write ⟨["x", "x"]⟩ [100] ringed = .ok () ⟨[(⟨["x"]⟩, .file [100])]⟩ := by rfl
  have named := always ringed ⟨["x", "x"]⟩ [100] _ (fun d seat => ?_) ran
  · revert named
    decide
  · cases seat
    decide

end Op

end Folio.FileTree
