import Folio.FileTree.Listing
import Folio.Proofs.FileTree.Resolve

/-!
# Paths that pass no link

A path on which no link lies leads to itself (`locate_eq`, `locateTarget_eq`, `resolve_eq`), and
what it names is the same in trees that agree along it (`target?_congr`). No link is left on the way
to a place once all are followed (`locateTarget_linkless`). A path that leads to a file goes on to do
so, whatever it passes, as long as directories, links and that file stay (`target?_persists`).
-/

namespace Folio.FileTree

variable {t t' : FileTree} {p q : Path}

/-- Whether what lies at a path is a link. -/
def HasLink (t : FileTree) (p : Path) : Prop :=
  ∃ target, t.get? p = some (.link target)

instance (t : FileTree) (p : Path) : Decidable (t.HasLink p) :=
  decidable_of_iff ((t.get? p).any Entry.isLink = true) <| by
    unfold HasLink
    cases t.get? p with
    | none => simp
    | some e => cases e <;> simp [Entry.isLink]

/-- Whether no link lies at a path or on the way to it. -/
def Linkless (t : FileTree) (p : Path) : Prop :=
  ∀ q, p.isBelow q = true → ¬ t.HasLink q

theorem Linkless.above (linkless : t.Linkless p) (below : p.isBelow q = true) : t.Linkless q :=
  fun _ above => linkless _ (Path.isBelow_trans below above)

theorem linkless_root : t.Linkless Path.root := by
  rintro q above ⟨target, found⟩
  have below : q.isBelow Path.root = true := Path.root_append q ▸ Path.isBelow_append ..
  rw [Path.eq_of_isBelow below above] at found
  cases found

theorem Linkless.child {name : String} (linkless : t.Linkless p) (plain : ¬ t.HasLink (p.child name)) :
    t.Linkless (p.child name) := by
  intro q above
  rcases Path.eq_or_isBelow_parent above with rfl | above
  · exact plain
  · exact linkless q (by simpa [Path.parent, Path.child] using above)

/-- A walk from a directory along names without links ends where the names say. -/
theorem walkOn_eq {followLast : Bool}
    {follow : Option (Path → List String → Except FileProblem Path)} {here : Path}
    {names : List String} (straight : ".." ∉ names)
    (linkless : ∀ before after, names = before ++ after → before ≠ [] →
      (followLast = false → after ≠ []) → ¬ t.HasLink (here.append before))
    (reached : t.walkOn followLast follow here names = .ok q) : q = here.append names := by
  induction names generalizing here with
  | nil =>
    exact (Except.ok.inj reached).symm.trans (Path.append_nil here).symm
  | cons name rest ih =>
    obtain ⟨forth, straight⟩ := not_or.1 (mt List.mem_cons.2 straight)
    have next (reached : t.walkOn followLast follow (here.child name) rest = .ok q) :
        q = here.append (name :: rest) := by
      rw [← Path.child_append]
      refine ih straight (fun before after split some last => ?_) reached
      rw [Path.child_append]
      exact linkless (name :: before) after (by rw [split]; rfl) (List.cons_ne_nil _ _) last
    unfold walkOn at reached
    rw [if_neg (Ne.symm forth)] at reached
    split at reached
    · cases reached
    · split at reached
      · split at reached
        · next last => cases reached; rw [last]; rfl
        · cases reached
      · exact next reached
      · split at reached
        · next last => cases reached; rw [last]; rfl
        · cases reached
      · next target found =>
        split at reached
        · next last => cases reached; rw [last.1]; rfl
        · next passes =>
          refine absurd ⟨target, found⟩ (linkless [name] rest rfl (List.cons_ne_nil _ _) ?_)
          intro last rest
          exact passes ⟨rest, by rw [last]; rfl⟩

/-- A walk that goes on past some names without links passes a directory there. -/
theorem walkOn_above {follow : Option (Path → List String → Except FileProblem Path)}
    {here : Path} {before after : List String} (straight : ".." ∉ before)
    (linkless : ∀ first rest, before = first ++ rest → first ≠ [] → ¬ t.HasLink (here.append first))
    (more : after ≠ []) (reached : t.walkOn true follow here (before ++ after) = .ok q) :
    t.walkOn true follow here before = .ok (here.append before) ∧
      (before ≠ [] → t.get? (here.append before) = some .directory) := by
  induction before generalizing here with
  | nil => exact ⟨congrArg Except.ok (Path.append_nil here).symm, fun none => absurd rfl none⟩
  | cons name rest ih =>
    obtain ⟨forth, straight⟩ := not_or.1 (mt List.mem_cons.2 straight)
    have left : rest ++ after ≠ [] := by simp [more]
    rw [List.cons_append] at reached
    unfold walkOn at reached ⊢
    rw [if_neg (Ne.symm forth)] at reached ⊢
    split at reached
    · cases reached
    · next short =>
      rw [if_neg short]
      split at reached
      · cases reached
      · next found =>
        have next (first later : List String) (split : rest = first ++ later) (_ : first ≠ []) :
            ¬ t.HasLink ((here.child name).append first) := by
          rw [Path.child_append]
          exact linkless (name :: first) later (by rw [split]; rfl) (List.cons_ne_nil _ _)
        obtain ⟨walked, directory⟩ := ih straight next reached
        rw [Path.child_append] at walked directory
        refine ⟨walked, fun _ => ?_⟩
        by_cases last : rest = []
        · subst last
          exact found
        · exact directory last
      · cases reached
      · next target found =>
        exact absurd ⟨target, found⟩ (linkless [name] rest rfl (List.cons_ne_nil _ _))

/-- A walk goes on from a directory that it comes to past no link. -/
theorem walkOn_append {follow : Option (Path → List String → Except FileProblem Path)}
    {here : Path} {before after : List String} (straight : ".." ∉ before)
    (linkless : ∀ first rest, before = first ++ rest → first ≠ [] → ¬ t.HasLink (here.append first))
    (directory : before ≠ [] → t.get? (here.append before) = some .directory)
    (reached : t.walkOn true follow here before = .ok q) :
    t.walkOn true follow here (before ++ after) = t.walkOn true follow (here.append before) after := by
  induction before generalizing here with
  | nil => rw [List.nil_append, Path.append_nil]
  | cons name rest ih =>
    obtain ⟨forth, straight⟩ := not_or.1 (mt List.mem_cons.2 straight)
    have directory := directory (List.cons_ne_nil _ _)
    rw [← Path.child_append] at directory ⊢
    have next (walked : t.walkOn true follow (here.child name) rest = .ok q) :
        t.walkOn true follow (here.child name) (rest ++ after) =
          t.walkOn true follow ((here.child name).append rest) after := by
      refine ih straight (fun first later split some => ?_) (fun _ => directory) walked
      rw [Path.child_append]
      exact linkless (name :: first) later (by rw [split]; rfl) (List.cons_ne_nil _ _)
    have last (none : rest = []) : t.get? (here.child name) = some .directory := by
      rwa [none, Path.append_nil] at directory
    rw [List.cons_append, walkOn, if_neg (Ne.symm forth)]
    rw [walkOn, if_neg (Ne.symm forth)] at reached
    split at reached
    · cases reached
    · next short =>
      rw [if_neg short]
      split at reached
      · next found =>
        split at reached
        · next none => cases found.symm.trans (last none)
        · cases reached
      · exact next reached
      · next found =>
        split at reached
        · next none => cases found.symm.trans (last none)
        · cases reached
      · next target found =>
        exact absurd ⟨target, found⟩ (linkless [name] rest rfl (List.cons_ne_nil _ _))

/-- Walks through trees that agree along the names, where no link lies, come to the same. -/
theorem walkOn_congr {followLast : Bool}
    {follow follow' : Option (Path → List String → Except FileProblem Path)} {here : Path}
    {names : List String} (straight : ".." ∉ names)
    (alike : ∀ before after, names = before ++ after → before ≠ [] →
      t'.get? (here.append before) = t.get? (here.append before) ∧ ¬ t.HasLink (here.append before)) :
    t'.walkOn followLast follow' here names = t.walkOn followLast follow here names := by
  induction names generalizing here with
  | nil => rfl
  | cons name rest ih =>
    obtain ⟨forth, straight⟩ := not_or.1 (mt List.mem_cons.2 straight)
    obtain ⟨same, linkless⟩ := alike [name] rest rfl (List.cons_ne_nil _ _)
    change t'.get? (here.child name) = t.get? (here.child name) at same
    have next : t'.walkOn followLast follow' (here.child name) rest =
        t.walkOn followLast follow (here.child name) rest := by
      refine ih straight fun before after split some => ?_
      rw [Path.child_append]
      exact alike (name :: before) after (by rw [split]; rfl) (List.cons_ne_nil _ _)
    unfold walkOn
    rw [same, if_neg (Ne.symm forth), if_neg (Ne.symm forth)]
    split
    · rfl
    · split
      · rfl
      · exact next
      · rfl
      · next target found => exact absurd ⟨target, found⟩ linkless

/-! ## Places of paths -/

theorem exists_walk_eq (t : FileTree) (followLast : Bool) (links : Nat) :
    ∃ follow, t.walk followLast links = t.walkOn followLast follow := by
  cases links with
  | zero => exact ⟨none, rfl⟩
  | succ links => exact ⟨_, rfl⟩

theorem locate_eq (proper : p.IsProper) (linkless : t.Linkless p.parent)
    (found : t.locate p = .ok q) : q = p := by
  obtain ⟨follow, walk⟩ := exists_walk_eq t false maxLinks
  unfold locate at found
  split at found
  · cases found
  · rw [walk] at found
    refine walkOn_eq proper.straight (fun before after split _ last => linkless _ ?_) found
    refine Path.isBelow_iff.2 ⟨after.dropLast, ?_⟩
    rw [Path.append_append, Path.parent, split, List.dropLast_append_of_ne_nil (last rfl)]
    rfl

theorem locateTarget_eq (proper : p.IsProper) (linkless : t.Linkless p)
    (found : t.locateTarget p = .ok q) : q = p := by
  obtain ⟨follow, walk⟩ := exists_walk_eq t true maxLinks
  unfold locateTarget at found
  split at found
  · cases found
  · rw [walk] at found
    refine walkOn_eq proper.straight (fun before after split _ _ => linkless _ ?_) found
    refine Path.isBelow_iff.2 ⟨after, ?_⟩
    rw [Path.append_append, ← split, Path.root_append]

/-- What a path without links names lies there. -/
theorem get?_of_target? {e : Entry} (proper : p.IsProper) (linkless : t.Linkless p)
    (named : t.target? p = some e) : t.get? p = some e := by
  unfold target? at named
  cases reached : t.locateTarget p with
  | error problem => rw [reached] at named; cases named
  | ok q =>
    rw [reached] at named
    rwa [← locateTarget_eq proper linkless reached]

/-- Above what a path without links names there are directories. -/
theorem directory_above {e : Entry} (proper : p.IsProper) (linkless : t.Linkless p)
    (named : t.target? p = some e) (below : p.isBelow q = true) (other : q ≠ p) :
    t.locateTarget q = .ok q ∧ t.get? q = some .directory := by
  obtain ⟨follow, walk⟩ := exists_walk_eq t true maxLinks
  obtain ⟨names, rfl⟩ := Path.isBelow_iff.1 below
  unfold target? at named
  cases reached : t.locateTarget (q.append names) with
  | error problem => rw [reached] at named; cases named
  | ok place =>
    unfold locateTarget at reached ⊢
    split at reached
    · cases reached
    · next usable =>
      have plain : ¬ holdsNull q = true := by
        simp only [holdsNull, Path.append, List.any_append, Bool.or_eq_true, not_or] at usable
        exact usable.1
      rw [walk] at reached
      obtain ⟨walked, directory⟩ := @walkOn_above t _ follow Path.root _ _
        (fun member => proper.straight (List.mem_append_left _ member))
        (fun first rest split _ => linkless _ (Path.isBelow_iff.2 ⟨rest ++ names, by
          rw [Path.append_append, ← List.append_assoc, ← split]; rfl⟩))
        (fun none => other (by rw [none, Path.append_nil])) reached
      rw [if_neg plain, walk]
      refine ⟨walked, ?_⟩
      by_cases top : q.segments = []
      · obtain rfl : q = Path.root := congrArg Path.mk top
        rfl
      · exact directory top

/-- A name that a file can have is located in a directory, whatever lies there but a link. -/
theorem locateTarget_child {name : String} (proper : (p.child name).IsProper)
    (linkless : t.Linkless (p.child name)) (found : t.locateTarget p = .ok p)
    (directory : t.get? p = some .directory) (short : isTooLong name = false)
    (usable : '\x00' ∉ name.toList) : t.locateTarget (p.child name) = .ok (p.child name) := by
  obtain ⟨follow, walk⟩ := exists_walk_eq t true maxLinks
  unfold locateTarget at found ⊢
  split at found
  · cases found
  · next plain =>
    have plain' : ¬ holdsNull (p.child name) = true := by
      simp only [holdsNull, Path.child, List.any_append, List.any_cons, List.any_nil, Bool.or_false,
        Bool.or_eq_true, List.contains_iff_mem, not_or] at plain ⊢
      exact ⟨plain, usable⟩
    have forth : name ≠ ".." := (proper name (by simp [Path.child])).2
    have here : ¬ t.HasLink (p.child name) := linkless _ (Path.isBelow_refl _)
    have above := linkless.above (Path.isBelow_child p name)
    rw [if_neg plain', walk] at *
    have onward := @walkOn_append t p follow Path.root p.segments [name]
      (fun member => proper.straight (List.mem_append_left _ member))
      (fun first rest split _ => above _ (Path.isBelow_iff.2 ⟨rest, by
        rw [Path.append_append, ← split]; rfl⟩)) (fun _ => directory) found
    refine onward.trans ?_
    rw [Path.root_append]
    unfold walkOn
    rw [if_neg forth, if_neg (by simp [short])]
    cases there : t.get? (p.child name) with
    | none => rfl
    | some e =>
      cases e with
      | link target => exact absurd ⟨target, there⟩ here
      | file content => rfl
      | directory => rfl

/-- A path is located alike in trees that agree along it, if no link lies there. -/
theorem locateTarget_congr (proper : p.IsProper) (linkless : t.Linkless p)
    (alike : ∀ q, p.isBelow q = true → t'.get? q = t.get? q) :
    t'.locateTarget p = t.locateTarget p := by
  obtain ⟨follow, walk⟩ := exists_walk_eq t true maxLinks
  obtain ⟨follow', walk'⟩ := exists_walk_eq t' true maxLinks
  unfold locateTarget
  rw [walk, walk']
  split
  · rfl
  · refine walkOn_congr proper.straight fun before after split _ => ?_
    have above : p.isBelow (Path.root.append before) = true := by
      refine Path.isBelow_iff.2 ⟨after, ?_⟩
      rw [Path.append_append, ← split, Path.root_append]
    exact ⟨alike _ above, linkless _ above⟩

/-- What a path names is the same in trees that agree along it, if no link lies there. -/
theorem target?_congr (proper : p.IsProper) (linkless : t.Linkless p)
    (alike : ∀ q, p.isBelow q = true → t'.get? q = t.get? q) : t'.target? p = t.target? p := by
  unfold target?
  rw [locateTarget_congr proper linkless alike]
  cases found : t.locateTarget p with
  | error problem => rfl
  | ok q =>
    rw [locateTarget_eq proper linkless found]
    exact alike p (Path.isBelow_refl p)

/-- A path on which no link lies is its own resolution. -/
theorem resolve_eq (proper : p.IsProper) (linkless : t.Linkless p) : t.resolve p = p := by
  have resolved (follow : Option (Ends → Path → List Step → Path)) (ends : Ends) (here : Path)
      (names : List String) (straight : ".." ∉ names)
      (linkless : ∀ before after, names = before ++ after → before ≠ [] →
        ¬ t.HasLink (here.append before)) :
      t.resolveOn follow ends here (names.map .enter) = here.append names := by
    induction names generalizing here with
    | nil => exact (Path.append_nil here).symm
    | cons name rest ih =>
      obtain ⟨forth, straight⟩ := not_or.1 (mt List.mem_cons.2 straight)
      have next : t.resolveOn follow ends (here.child name) (rest.map .enter) =
          here.append (name :: rest) := by
        rw [ih _ straight, Path.child_append]
        intro before after split some
        rw [Path.child_append]
        exact linkless (name :: before) after (by rw [split]; rfl) (List.cons_ne_nil _ _)
      rw [List.map_cons, resolveOn, if_neg (Ne.symm forth)]
      dsimp only
      split
      · next target found =>
        exact absurd ⟨target, found⟩ (linkless [name] rest rfl (List.cons_ne_nil _ _))
      · exact next
  have walked (count : Nat) : ∃ follow, t.resolveFrom count = t.resolveOn follow := by
    cases count with
    | zero => exact ⟨none, rfl⟩
    | succ links => exact ⟨_, rfl⟩
  obtain ⟨follow, walk⟩ := walked t.entries.length
  unfold resolve
  dsimp only
  rw [walk, resolved follow [] Path.root p.segments proper.straight]
  · exact congrArg Path.mk (Path.collapse_eq_self proper.straight)
  · intro before after split _
    refine linkless _ (Path.isBelow_iff.2 ⟨after, ?_⟩)
    rw [Path.append_append, ← split, Path.root_append]

/-! ## Ways to files -/

/-- A walk that comes to a place comes to the file that lies there in another tree, where the
directories on the way are the same. -/
theorem walkOn_file {followLast followLast' : Bool}
    {follow follow' : Option (Path → List String → Except FileProblem Path)} {here : Path}
    {names : List String} {content : Bytes} (straight : ".." ∉ names)
    (alike : ∀ before after, names = before ++ after → before ≠ [] → after ≠ [] →
      t'.get? (here.append before) = t.get? (here.append before) ∧ ¬ t.HasLink (here.append before))
    (there : t'.get? (here.append names) = some (.file content))
    (reached : t.walkOn followLast follow here names = .ok q) :
    t'.walkOn followLast' follow' here names = .ok (here.append names) := by
  induction names generalizing here with
  | nil => exact congrArg Except.ok (Path.append_nil here).symm
  | cons name rest ih =>
    obtain ⟨forth, straight⟩ := not_or.1 (mt List.mem_cons.2 straight)
    unfold walkOn at reached ⊢
    rw [if_neg (Ne.symm forth)] at reached ⊢
    split at reached
    · cases reached
    · next short =>
      rw [if_neg short]
      cases rest with
      | nil =>
        change t'.get? (here.child name) = _ at there
        rw [there]
        rfl
      | cons second rest =>
        obtain ⟨same, linkless⟩ := alike [name] (second :: rest) rfl (by simp) (by simp)
        change t'.get? (here.child name) = t.get? (here.child name) at same
        rw [same]
        split at reached
        · cases reached
        · rw [← Path.child_append] at there ⊢
          refine ih straight (fun before after split some more => ?_) there reached
          rw [Path.child_append]
          exact alike (name :: before) after (by rw [split]; rfl) (List.cons_ne_nil _ _) more
        · cases reached
        · next target found => exact absurd ⟨target, found⟩ linkless

theorem isBelow_parent_of_split {before after : List String} (split : p.segments = before ++ after)
    (more : after ≠ []) : p.parent.isBelow (Path.root.append before) = true := by
  refine Path.isBelow_iff.2 ⟨after.dropLast, ?_⟩
  rw [Path.append_append, Path.parent, split, List.dropLast_append_of_ne_nil more]
  rfl

/-- A path that can be located names the file that comes to lie there. -/
theorem target?_of_locate {content : Bytes} (proper : p.IsProper) (linkless : t.Linkless p.parent)
    (alike : ∀ q, p.parent.isBelow q = true → t'.get? q = t.get? q)
    (there : t'.get? p = some (.file content)) (located : t.locate p = .ok q) :
    t'.target? p = some (.file content) := by
  obtain ⟨follow, walk⟩ := exists_walk_eq t false maxLinks
  obtain ⟨follow', walk'⟩ := exists_walk_eq t' true maxLinks
  unfold locate at located
  unfold target? locateTarget
  split at located
  · cases located
  · next usable =>
    rw [walk] at located
    have reached := @walkOn_file t t' q false true follow follow' Path.root p.segments content
      proper.straight (fun before after split _ more =>
        have above := isBelow_parent_of_split split more
        ⟨alike _ above, linkless _ above⟩) there located
    rw [if_neg usable, walk', reached]
    exact there

/-- A path that names a file and passes no link is located there. -/
theorem locate_of_target? {content : Bytes} (proper : p.IsProper) (linkless : t.Linkless p)
    (named : t.target? p = some (.file content)) : t.locate p = .ok p := by
  have there := get?_of_target? proper linkless named
  obtain ⟨follow, walk⟩ := exists_walk_eq t true maxLinks
  obtain ⟨follow', walk'⟩ := exists_walk_eq t false maxLinks
  by_cases usable : holdsNull p = true
  · rw [target?, locateTarget, if_pos usable] at named
    cases named
  · rw [target?, locateTarget, if_neg usable, walk] at named
    rw [locate, if_neg usable, walk']
    cases reached : t.walkOn true follow Path.root p.segments with
    | error problem => rw [reached] at named; cases named
    | ok q =>
      exact @walkOn_file t t q true false follow follow' Path.root p.segments content
        proper.straight (fun before after split _ more => ⟨rfl, linkless _
          (Path.isBelow_trans p.isBelow_parent (isBelow_parent_of_split split more))⟩) there reached

/-! ## Links followed -/

/-- A walk that follows all links ends at a place with none on the way to it. -/
theorem walkOn_linkless {follow : Option (Path → List String → Except FileProblem Path)}
    {here : Path} {names : List String} (way : t.Linkless here)
    (onward : ∀ f here names, follow = some f → t.Linkless here → f here names = .ok q →
      t.Linkless q)
    (reached : t.walkOn true follow here names = .ok q) : t.Linkless q := by
  induction names generalizing here with
  | nil =>
    cases reached
    exact way
  | cons name rest ih =>
    unfold walkOn at reached
    split at reached
    · exact ih (way.above here.isBelow_parent) reached
    · split at reached
      · cases reached
      · have child {e : Option Entry} (found : t.get? (here.child name) = e)
            (other : ∀ target, e ≠ some (.link target)) : t.Linkless (here.child name) :=
          way.child fun ⟨target, link⟩ => other target (found.symm.trans link)
        split at reached
        · next found =>
          split at reached
          · cases reached
            exact child found nofun
          · cases reached
        · next found => exact ih (child found nofun) reached
        · next content found =>
          split at reached
          · cases reached
            exact child found nofun
          · cases reached
        · next target found =>
          simp only [Bool.not_true, Bool.false_eq_true, and_false, if_false] at reached
          split at reached
          · cases reached
          · next f =>
            refine onward f _ _ rfl ?_ reached
            unfold linkStart
            split
            · exact way
            · exact linkless_root

theorem walk_linkless {links : Nat} {here : Path} {names : List String} (way : t.Linkless here)
    (reached : t.walk true links here names = .ok q) : t.Linkless q := by
  induction links generalizing here names with
  | zero =>
    refine walkOn_linkless way (fun f here names same way walked => ?_) reached
    cases same
  | succ links ih =>
    refine walkOn_linkless way (fun f here names same way walked => ?_) reached
    cases same
    exact ih way walked

theorem locateTarget_linkless (reached : t.locateTarget p = .ok q) : t.Linkless q := by
  unfold locateTarget at reached
  split at reached
  · cases reached
  · exact walk_linkless linkless_root reached

/-! ## Paths that stay -/

/-- Whether directories and links of a tree are there in another one. -/
def KeepsWays (t t' : FileTree) : Prop :=
  ∀ p e, t.get? p = some e → (∀ content, e ≠ .file content) → t'.get? p = some e

theorem walkOn_persists {followLast : Bool}
    {follow follow' : Option (Path → List String → Except FileProblem Path)} {here : Path}
    {names : List String} {e : Entry} (ways : KeepsWays t t') (there : t.get? q = some e)
    (stays : ∀ content, e = .file content → ∃ content', t'.get? q = some (.file content'))
    (onward : ∀ f here names, follow = some f → f here names = .ok q →
      ∃ f', follow' = some f' ∧ f' here names = .ok q)
    (reached : t.walkOn followLast follow here names = .ok q) :
    t'.walkOn followLast follow' here names = .ok q := by
  induction names generalizing here with
  | nil => exact reached
  | cons name rest ih =>
    unfold walkOn at reached ⊢
    split at reached
    · next back => rw [if_pos back]; exact ih reached
    · next forth =>
      rw [if_neg forth]
      split at reached
      · cases reached
      · next short =>
        rw [if_neg short]
        split at reached
        · next found =>
          split at reached
          · cases reached
            rw [there] at found
            cases found
          · cases reached
        · next found =>
          rw [ways _ _ found (fun _ => Entry.noConfusion)]
          exact ih reached
        · next content found =>
          split at reached
          · next last =>
            cases reached
            rw [there] at found
            obtain ⟨content', found'⟩ := stays content (Option.some.inj found)
            simp [found', last]
          · cases reached
        · next target found =>
          rw [ways _ _ found (fun _ => Entry.noConfusion)]
          dsimp only
          split at reached
          · next last => rw [if_pos last]; exact reached
          · next passes =>
            rw [if_neg passes]
            split at reached
            · cases reached
            · next f =>
              obtain ⟨f', same, again⟩ := onward f _ _ rfl reached
              rw [same]
              exact again

theorem walk_persists {followLast : Bool} {links : Nat} {here : Path} {names : List String}
    {e : Entry} (ways : KeepsWays t t') (there : t.get? q = some e)
    (stays : ∀ content, e = .file content → ∃ content', t'.get? q = some (.file content'))
    (reached : t.walk followLast links here names = .ok q) :
    t'.walk followLast links here names = .ok q := by
  induction links generalizing here names with
  | zero =>
    refine walkOn_persists ways there stays (fun f here names same walked => ?_) reached
    cases same
  | succ links ih =>
    refine walkOn_persists ways there stays (fun f here names same walked => ?_) reached
    cases same
    exact ⟨_, rfl, ih walked⟩

theorem locateTarget_persists {e : Entry} (ways : KeepsWays t t') (there : t.get? q = some e)
    (stays : ∀ content, e = .file content → ∃ content', t'.get? q = some (.file content'))
    (reached : t.locateTarget p = .ok q) : t'.locateTarget p = .ok q := by
  unfold locateTarget at reached ⊢
  split at reached
  · cases reached
  · next usable => rw [if_neg usable, walk_persists ways there stays reached]

/-- A path that names something goes on to name it where that and all directories and links stay. -/
theorem target?_persists {e : Entry} (ways : KeepsWays t t') (named : t.target? p = some e)
    (stays : ∀ q, t.locateTarget p = .ok q → t'.get? q = t.get? q) : t'.target? p = some e := by
  unfold target? at named ⊢
  cases reached : t.locateTarget p with
  | error problem => rw [reached] at named; cases named
  | ok q =>
    rw [reached] at named
    have stays := (stays q reached).trans named
    rw [locateTarget_persists ways named (fun content same => ⟨content, same ▸ stays⟩) reached]
    exact stays

end Folio.FileTree
