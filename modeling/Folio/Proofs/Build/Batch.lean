import Folio.Proofs.Build.Affected
import Folio.Proofs.Build.Invariant
import Folio.Proofs.Build.Sources
import Folio.Proofs.Sorting

/-!
# Batches as sets

A batch does the same in whatever order its changes are listed (`handle_perm`), as long as no page is
reported both as deleted and as there. The changes are sorted by their path texts, so that two orders
only differ in changes of one path; those of one path commute because a root never depends on itself.
-/

namespace Folio.Build

open Dependencies

variable {α β γ δ : Type} {s t : State} {changes changes' : List Change}

/-! ## Runs that agree -/

/-- Whether two steps do the same to a state and return related values, or stop alike. -/
def Agree (R : α → β → Prop) (x : Build α) (y : Build β) (s : State) : Prop :=
  (∃ a b t, x s = .ok a t ∧ y s = .ok b t ∧ R a b) ∨ ∃ e t, x s = .error e t ∧ y s = .error e t

namespace Agree

variable {R : α → β → Prop} {x : Build α} {y : Build β}

theorem of_eq {x y : Build α} (same : x s = y s) : Agree Eq x y s := by
  cases ran : x s with
  | ok a t => exact Or.inl ⟨a, a, t, ran, same ▸ ran, rfl⟩
  | error e t => exact Or.inr ⟨e, t, ran, same ▸ ran⟩

theorem eq {x y : Build α} (agree : Agree Eq x y s) : x s = y s := by
  rcases agree with ⟨a, _, t, one, two, rfl⟩ | ⟨e, t, one, two⟩
  · rw [one, two]
  · rw [one, two]

theorem bind {S : γ → δ → Prop} {f : α → Build γ} {g : β → Build δ} (first : Agree R x y s)
    (second : ∀ a b t, x s = .ok a t → R a b → Agree S (f a) (g b) t) :
    Agree S (x >>= f) (y >>= g) s := by
  rcases first with ⟨a, b, t, one, two, related⟩ | ⟨e, t, one, two⟩
  · rcases second a b t one related with ⟨c, d, u, one', two', related'⟩ | ⟨e, u, one', two'⟩
    · exact Or.inl ⟨c, d, u, bind_ok_iff.2 ⟨a, t, one, one'⟩, bind_ok_iff.2 ⟨b, t, two, two'⟩, related'⟩
    · exact Or.inr ⟨e, u, bind_error_iff.2 (Or.inr ⟨a, t, one, one'⟩),
        bind_error_iff.2 (Or.inr ⟨b, t, two, two'⟩)⟩
  · exact Or.inr ⟨e, t, bind_error_iff.2 (Or.inl one), bind_error_iff.2 (Or.inl two)⟩

theorem pure {a : α} {b : β} (related : R a b) : Agree R (pure a) (pure b) s :=
  Or.inl ⟨a, b, s, rfl, rfl, related⟩

theorem trans {R : α → α → Prop} {x y z : Build α} (transitive : ∀ a b c, R a b → R b c → R a c)
    (first : Agree R x y s) (second : Agree R y z s) : Agree R x z s := by
  rcases first with ⟨a, b, t, one, two, related⟩ | ⟨e, t, one, two⟩
  · rcases second with ⟨b', c, t', two', three, related'⟩ | ⟨e, t', two', three⟩
    · rw [two] at two'
      cases two'
      exact Or.inl ⟨a, c, t, one, three, transitive a b c related related'⟩
    · rw [two] at two'
      cases two'
  · rcases second with ⟨b', c, t', two', three, related'⟩ | ⟨e', t', two', three⟩
    · rw [two] at two'
      cases two'
    · rw [two] at two'
      cases two'
      exact Or.inr ⟨e, t, one, three⟩

end Agree

/-! ## Changes of one path -/

/-- Whether no page is reported both as deleted and as there. -/
def Definite (changes : List Change) (s : State) : Prop :=
  ∀ c ∈ changes, ∀ c' ∈ changes, c.path = c'.path → c.kind = .deleted → c'.kind ≠ .deleted →
    ∀ p, s.isChange c p → s.hasPage p = false

/-- Whether two located changes are of one place, where either is deleted or neither, or no page is. -/
structure Swappable (s : State) (a b : Located) : Prop where
  place : a.2 = b.2
  proper : a.2.IsProper
  kinds : (a.1 = .deleted ↔ b.1 = .deleted) ∨ s.hasPage a.2 = false

theorem reordered_sorted (perm : changes.Perm changes') :
    Reordered (fun c c' => c ∈ changes ∧ c' ∈ changes ∧ c.path = c'.path)
      (sortBy (fun a b => !decide (b.path < a.path)) changes)
      (sortBy (fun a b => !decide (b.path < a.path)) changes') := by
  let before : Change → Change → Bool := fun a b => !decide (b.path < a.path)
  have upTo (a b : Change) : before a b = true ↔ a.path ≤ b.path := by
    change (!decide (b.path < a.path)) = true ↔ _
    rw [Bool.not_eq_true', decide_eq_false_iff_not, String.not_lt]
  have trans (a b c : Change) : before a b = true → before b c = true → before a c = true := by
    simpa only [upTo] using String.le_trans
  have total (a b : Change) : before a b = true ∨ before b a = true := by
    simpa only [upTo] using String.le_total ..
  have sorted := reordered_sortBy trans total perm
  refine sorted.imp fun a member b member' tied => ⟨mem_sortBy.1 member, mem_sortBy.1 member', ?_⟩
  exact String.le_antisymm ((upTo a b).1 tied.1) ((upTo b a).1 tied.2)

def locate (s : State) (c : Change) : Build Located :=
  return (c.kind, ← realPathOf (Path.ofText s.base c.path))

theorem locate_eq (s : State) (c : Change) : locate s c s =
    match realPath s.files (Path.ofText s.base c.path) with
    | .ok p => .ok (c.kind, p) s
    | .error e => .error e s := by
  change EStateM.bind (realPathOf _) _ s = _
  rw [EStateM.bind, realPathOf]
  cases realPath s.files (Path.ofText s.base c.path) <;> rfl

theorem locate_ok {c : Change} {a : Located} (ran : locate s c s = .ok a t) :
    s.isChange c a.2 ∧ a.1 = c.kind ∧ t = s := by
  rw [locate_eq] at ran
  split at ran
  · next found =>
    cases ran
    exact ⟨found, rfl, rfl⟩
  · cases ran

theorem locate_reordered (base : s.base.IsProper) (definite : Definite changes s)
    {one two : List Change}
    (reordered : Reordered (fun c c' => c ∈ changes ∧ c' ∈ changes ∧ c.path = c'.path) one two) :
    Agree (Reordered (Swappable s)) (one.mapM (locate s)) (two.mapM (locate s)) s := by
  induction reordered with
  | nil => exact .pure .nil
  | cons c _ ih =>
    rw [List.mapM_cons, List.mapM_cons]
    refine Agree.bind (.of_eq rfl) fun a b t ran same => ?_
    obtain rfl : a = b := same
    obtain ⟨-, -, rfl⟩ := locate_ok ran
    exact ih.bind fun _ _ _ _ reordered => .pure (reordered.cons a)
  | @swap c c' rest alike =>
    obtain ⟨member, member', path⟩ := alike
    have one := locate_eq s c
    have two := locate_eq s c'
    rw [← path] at two
    simp only [List.mapM_cons, bind_assoc, pure_bind]
    cases found : realPath s.files (Path.ofText s.base c.path) with
    | error e =>
      rw [found] at one two
      exact Or.inr ⟨e, s, bind_error_iff.2 (Or.inl one), bind_error_iff.2 (Or.inl two)⟩
    | ok p =>
      rw [found] at one two
      have swappable : Swappable s (c.kind, p) (c'.kind, p) := by
        refine ⟨rfl, State.isChange.isProper found base, ?_⟩
        by_cases gone : c.kind = .deleted <;> by_cases gone' : c'.kind = .deleted
        · exact Or.inl (iff_of_true gone gone')
        · exact Or.inr (definite c member c' member' path gone gone' p found)
        · refine Or.inr (definite c' member' c member path.symm gone' gone p ?_)
          rwa [State.isChange, ← path]
        · exact Or.inl (iff_of_false gone gone')
      have first : Agree (fun a b => a = (c.kind, p) ∧ b = (c'.kind, p)) (locate s c) (locate s c') s :=
        Or.inl ⟨_, _, s, one, two, rfl, rfl⟩
      have second : Agree (fun a b => a = (c'.kind, p) ∧ b = (c.kind, p)) (locate s c') (locate s c) s :=
        Or.inl ⟨_, _, s, two, one, rfl, rfl⟩
      refine first.bind fun a a' t ran ⟨left, left'⟩ => ?_
      obtain ⟨-, -, rfl⟩ := locate_ok ran
      refine second.bind fun b b' u ran ⟨right, right'⟩ => ?_
      obtain ⟨-, -, rfl⟩ := locate_ok ran
      refine Agree.bind (.of_eq rfl) fun located _ _ _ same => .pure ?_
      subst left left' right right' same
      exact .swap located swappable
  | trans _ _ ih ih' => exact ih.trans (fun _ _ _ => .trans) ih'

theorem locateChanges_perm (base : s.base.IsProper) (perm : changes.Perm changes')
    (definite : Definite changes s) :
    Agree (Reordered (Swappable s)) (locateChanges changes) (locateChanges changes') s := by
  refine Agree.bind (.of_eq rfl) fun _ _ _ got same => ?_
  obtain ⟨rfl, rfl⟩ := get_ok_iff.1 got
  exact same ▸ locate_reordered base definite (reordered_sorted perm)

/-! ## Batches that differ in their order -/

def SwappableBelow (s : State) (a b : Located) : Prop :=
  Swappable s a b ∧ a.2.isBelow s.layout.views = true

/-- Whether two batches ask for the same, with changes of templates swapped. -/
structure Alternative (s : State) (b b' : Batch) : Prop where
  templates : Reordered (SwappableBelow s) b.templates b'.templates
  scripts : b.scripts = b'.scripts
  images : b.images = b'.images
  styles : b.styles = b'.styles
  vendor : b.vendor = b'.vendor

namespace Alternative

variable {a b c : Batch}

theorem refl (b : Batch) : Alternative s b b :=
  ⟨.refl _, rfl, rfl, rfl, rfl⟩

theorem trans (first : Alternative s a b) (second : Alternative s b c) : Alternative s a c where
  templates := first.templates.trans second.templates
  scripts := first.scripts.trans second.scripts
  images := first.images.trans second.images
  styles := first.styles.trans second.styles
  vendor := first.vendor.trans second.vendor

theorem add (alternative : Alternative s a b) (l : Layout) (kind : ChangeKind) (p : Path) :
    Alternative s (a.add l kind p) (b.add l kind p) := by
  obtain ⟨templates, scripts, images, styles, vendor⟩ := alternative
  unfold Batch.add
  dsimp only
  split
  · split
    · exact ⟨templates.append_right _, scripts, images, styles, vendor⟩
    · exact ⟨templates, scripts, images, styles, vendor⟩
  · split
    · split
      · exact ⟨templates, by rw [scripts], images, styles, vendor⟩
      · exact ⟨templates, scripts, images, styles, vendor⟩
    · split
      · exact ⟨templates, scripts, images, rfl, vendor⟩
      · split
        · split
          · exact ⟨templates, scripts, by rw [images], styles, vendor⟩
          · exact ⟨templates, scripts, images, styles, vendor⟩
        · split
          · exact ⟨templates, scripts, images, styles, rfl⟩
          · exact ⟨templates, scripts, images, styles, vendor⟩

theorem add_comm (batch : Batch) {x y : Located} (swappable : Swappable s x y) :
    Alternative s ((batch.add s.layout x.1 x.2).add s.layout y.1 y.2)
      ((batch.add s.layout y.1 y.2).add s.layout x.1 x.2) := by
  obtain ⟨kind, p⟩ := x
  obtain ⟨kind', p'⟩ := y
  obtain rfl : p = p' := swappable.place
  by_cases views : p.isBelow s.layout.views = true
  · simp only [Batch.add, views, if_true]
    split
    · refine ⟨?_, rfl, rfl, rfl, rfl⟩
      simp only [List.append_assoc, List.cons_append, List.nil_append]
      exact Reordered.append_left _ (.swap [] ⟨swappable, views⟩)
    · exact .refl batch
  · have same : (batch.add s.layout kind p).add s.layout kind' p =
        (batch.add s.layout kind' p).add s.layout kind p := by
      simp only [Batch.add, if_neg views]
      by_cases gone : kind = .deleted <;> by_cases gone' : kind' = .deleted <;>
        simp only [gone, gone', ne_eq, not_true, not_false_iff, false_and, true_and, if_false] <;>
        split_ifs <;> rfl
    rw [same]
    exact .refl _

theorem addAll (alternative : Alternative s a b) (located : List Located) :
    Alternative s (located.foldl (fun b c => b.add s.layout c.1 c.2) a)
      (located.foldl (fun b c => b.add s.layout c.1 c.2) b) := by
  induction located generalizing a b with
  | nil => exact alternative
  | cons c rest ih => exact ih (alternative.add s.layout c.1 c.2)

theorem ofChanges {one two : List Located} (reordered : Reordered (Swappable s) one two) :
    Alternative s (Batch.ofChanges s.layout one) (Batch.ofChanges s.layout two) := by
  have folded (a b : Batch) (alternative : Alternative s a b) :
      Alternative s (one.foldl (fun b c => b.add s.layout c.1 c.2) a)
        (two.foldl (fun b c => b.add s.layout c.1 c.2) b) := by
    induction reordered generalizing a b with
    | nil => exact alternative
    | cons c _ ih => exact ih _ _ (alternative.add s.layout c.1 c.2)
    | @swap x y rest swappable =>
      have both := (alternative.add s.layout x.1 x.2).add s.layout y.1 y.2
      exact (both.trans (add_comm b swappable)).addAll rest
    | trans _ _ ih ih' => exact (ih a b alternative).trans (ih' b b (.refl b))
  exact folded _ _ (.refl _)

end Alternative

/-! ## Affected roots -/

/-- Whether the dependency index of a state is what some operations made of an empty one. -/
def Recorded (s : State) : Prop :=
  ∃ operations, s.dependencies = Dependencies.run s.base operations

theorem Recorded.forget (recorded : Recorded s) (root : String) :
    Recorded { s with dependencies := s.dependencies.forget s.base root } := by
  obtain ⟨operations, same⟩ := recorded
  exact ⟨operations ++ [.forget root], by rw [run_snoc, ← same]; rfl⟩

/-- No root depends on itself. -/
theorem Recorded.not_mem_dependentsOf (recorded : Recorded s) {p : Path} (proper : p.IsProper) :
    p.text ∉ s.dependencies.dependentsOf s.base p.text := by
  obtain ⟨operations, same⟩ := recorded
  rw [same]
  intro member
  have edge := ((indexed_run s.base operations).reverse _ _).1 member
  exact ((mem_edges_run s.base operations _ _).1 edge).1 (proper.normalize_eq s.base)

theorem affectedRoots_deleted (p : Path) (rest : List Located) (roots : List String) (s : State) :
    affectedRoots ((.deleted, p) :: rest) roots s =
      affectedRoots rest
        ((union roots (s.dependencies.dependentsOf s.base p.text)).filter (· ≠ p.text))
        { s with dependencies := s.dependencies.forget s.base p.text } :=
  rfl

theorem affectedRoots_present {kind : ChangeKind} (present : kind ≠ .deleted) (p : Path)
    (rest : List Located) (roots : List String) (s : State) :
    affectedRoots ((kind, p) :: rest) roots s =
      if p.isBelow s.layout.views = true then
        let found := union roots (s.dependencies.dependentsOf s.base p.text)
        affectedRoots rest (if s.hasPage p = true then union found [p.text] else found) s
      else .error (.outside p) s := by
  have step : affectedRoots ((kind, p) :: rest) roots s = (do
      let segments ← belowOf p s.layout.views
      let found := union roots (s.dependencies.dependentsOf s.base p.text)
      affectedRoots rest
        (if View.isPage (Written.text ⟨.relative, segments⟩) then union found [p.text] else found) :
      Build (List String)) s := by
    rw [affectedRoots]
    simp only [present, if_false]
    rfl
  rw [step, belowOf, State.hasPage]
  cases below : p.below? s.layout.views with
  | none =>
    rw [if_neg fun under => ?_]
    · rfl
    · obtain ⟨segments, found⟩ := exists_below? under
      cases below.symm.trans found
  | some segments =>
    rw [if_pos (Path.isBelow_of_below? below), Option.any_some]
    rfl

theorem union_eq_self {a b : List String} (sub : ∀ name ∈ b, name ∈ a) : union a b = a := by
  have nothing : (distinct b).filter (!a.contains ·) = [] := by
    refine List.filter_eq_nil_iff.2 fun name member => ?_
    simpa using sub name (mem_distinct.1 member)
  rw [union, nothing, List.append_nil]

theorem affectedRoots_comm {kind : ChangeKind} (present : kind ≠ .deleted) {p : Path}
    (proper : p.IsProper) (page : s.hasPage p = false) (below : p.isBelow s.layout.views = true)
    (recorded : Recorded s) (rest : List Located) (roots : List String) :
    affectedRoots ((.deleted, p) :: (kind, p) :: rest) roots s =
      affectedRoots ((kind, p) :: (.deleted, p) :: rest) roots s := by
  let found := union roots (s.dependencies.dependentsOf s.base p.text)
  let t : State := { s with dependencies := s.dependencies.forget s.base p.text }
  -- Dependents that are left after the template is forgotten were found before, and it is none of
  -- them, so that the filter keeps them.
  have later : union (found.filter (· ≠ p.text)) (t.dependencies.dependentsOf s.base p.text) =
      found.filter (· ≠ p.text) := by
    refine union_eq_self fun name member => ?_
    have before := (mem_dependentsOf_forget.1 member).1
    refine List.mem_filter.2 ⟨mem_union.2 (Or.inr before), ?_⟩
    have other : name ≠ p.text := fun same =>
      recorded.not_mem_dependentsOf proper (same ▸ before)
    simpa using other
  have twice : union found (s.dependencies.dependentsOf s.base p.text) = found :=
    union_eq_self fun name member => mem_union.2 (Or.inr member)
  have page' : t.hasPage p = false := page
  calc affectedRoots ((.deleted, p) :: (kind, p) :: rest) roots s
      = affectedRoots ((kind, p) :: rest) (found.filter (· ≠ p.text)) t := affectedRoots_deleted ..
    _ = affectedRoots rest (found.filter (· ≠ p.text)) t := by
        rw [affectedRoots_present present, if_pos below]
        simp only [page']
        exact congrArg (affectedRoots rest · t) later
    _ = affectedRoots ((.deleted, p) :: rest) found s := by
        rw [affectedRoots_deleted, twice]
    _ = affectedRoots ((kind, p) :: (.deleted, p) :: rest) roots s := by
        rw [affectedRoots_present present, if_pos below]
        simp only [page]
        rfl

theorem affectedRoots_reordered {one two : List Located} {s₀ : State}
    (reordered : Reordered (SwappableBelow s₀) one two) (layout : s.layout = s₀.layout)
    (recorded : Recorded s) (roots : List String) :
    affectedRoots one roots s = affectedRoots two roots s := by
  induction reordered generalizing s roots with
  | nil => rfl
  | cons c _ ih =>
    obtain ⟨kind, p⟩ := c
    by_cases deleted : kind = .deleted
    · subst deleted
      rw [affectedRoots_deleted, affectedRoots_deleted]
      exact ih (s := { s with dependencies := s.dependencies.forget s.base p.text }) layout
        (recorded.forget _) _
    · rw [affectedRoots_present deleted, affectedRoots_present deleted]
      split
      · exact ih layout recorded _
      · rfl
  | @swap a b rest swappable =>
    obtain ⟨kind, p⟩ := a
    obtain ⟨kind', p'⟩ := b
    obtain ⟨⟨place, proper, kinds⟩, below⟩ := swappable
    obtain rfl : p = p' := place
    have under : p.isBelow s.layout.views = true := by rwa [layout]
    have page (mixed : ¬ (kind = .deleted ↔ kind' = .deleted)) : s.hasPage p = false := by
      have page := kinds.resolve_left mixed
      rwa [State.hasPage, ← layout] at page
    by_cases gone : kind = .deleted <;> by_cases gone' : kind' = .deleted
    · rw [gone, gone']
    · subst gone
      exact affectedRoots_comm gone' proper (page (by simp [gone'])) under recorded rest roots
    · subst gone'
      exact (affectedRoots_comm gone proper (page (by simp [gone])) under recorded rest roots).symm
    · simp only [affectedRoots_present gone, affectedRoots_present gone']
  | trans _ _ ih ih' => exact (ih layout recorded roots).trans (ih' layout recorded roots)

/-! ## Stages that record nothing -/

def Unrecorded (s t : State) : Prop :=
  t.dependencies = s.dependencies ∧ t.base = s.base ∧ t.layout = s.layout

theorem Unrecorded.trans {t u : State} (second : Unrecorded t u) (first : Unrecorded s t) :
    Unrecorded s u :=
  ⟨second.1.trans first.1, second.2.1.trans first.2.1, second.2.2.trans first.2.2⟩

/-- Steps that leave the dependency index as it is, whether they return or stop. -/
abbrev Leaves (s : State) (x : Build α) : Prop :=
  Keeps (Unrecorded s) (fun _ _ => True) (fun _ => True) x

theorem leaves_note (line : String) : Leaves s (note line) :=
  Keeps.modify fun _ kept => kept

theorem leaves_onFiles (p : Path) (x : FileTree.Op α) : Leaves s (onFiles p x) :=
  keeps_onFiles (fun _ _ _ kept _ => ⟨kept, trivial⟩) fun _ _ _ kept _ => ⟨kept, trivial⟩

theorem leaves_publish (path : String) (content : Bytes) : Leaves s (publish path content) :=
  (keeps_publish (l := s.layout) (fun _ kept => kept.2.2) (fun _ kept => kept)
    (fun _ _ => leaves_onFiles _ _) (fun _ _ _ _ => leaves_onFiles _ _)
    fun _ => .modify fun _ kept => kept).mono fun _ _ => trivial

section Reading

variable {I : State → Prop} (reads : ∀ s t, Unrecorded s t → I s → I t)

include reads

/-- An invariant that goes by the dependency index and the place of the site is kept by steps that
leave both. -/
theorem keeps_of_leaves {x : Build α} (leaves : ∀ s, Leaves s x) :
    Keeps I (fun _ _ => True) (fun _ => True) x :=
  .intro (fun s _ t start ran => ⟨reads s t ((leaves s).ok ⟨rfl, rfl, rfl⟩ ran).1 start, trivial⟩)
    fun s _ t start ran => ⟨reads s t ((leaves s).error ⟨rfl, rfl, rfl⟩ ran).1 start, trivial⟩

theorem publish_keeps {l : Layout} (layout : ∀ s, I s → s.layout = l) (path : String)
    (content : Bytes) : Keeps I (fun _ _ => True) (· = l.outputFile path) (publish path content) :=
  keeps_publish layout (fun s kept => reads s _ ⟨rfl, rfl, rfl⟩ kept)
    (fun _ _ => keeps_of_leaves reads fun _ => leaves_onFiles _ _)
    (fun _ _ _ _ => keeps_of_leaves reads fun _ => leaves_onFiles _ _)
    fun _ => .modify fun t kept => reads t _ ⟨rfl, rfl, rfl⟩ kept

theorem imageCraft_keeps {l : Layout} (layout : ∀ s, I s → s.layout = l) (source : Path) :
    imageCraft.Takes I (fun _ _ => True) source :=
  takes_image layout (fun _ => .modify fun t kept => reads t _ ⟨rfl, rfl, rfl⟩ kept)
    (keeps_of_leaves reads fun _ => leaves_onFiles _ _) (fun _ _ _ => trivial)
    (fun _ _ content => publish_keeps reads layout _ content)
    fun _ _ _ _ _ => keeps_of_leaves reads fun _ => leaves_onFiles _ _

end Reading

theorem leaves_publishImages (sources : List Path) : Leaves s (publishImages (some sources)) :=
  keeps_publishImages leaves_note fun source _ =>
    imageCraft_keeps (fun _ _ => .trans) (l := s.layout) (fun _ kept => kept.2.2) source

theorem leaves_publishVendor : Leaves s publishVendor := by
  refine keeps_publishVendor (l := s.layout) (fun _ kept => kept.2.2)
    (fun _ => .modify fun _ kept => kept) fun t _ _ => ?_
  split <;> exact leaves_onFiles _ _

theorem leaves_publishVendorOf (b : Batch) : Leaves s b.publishVendor := by
  refine .get_bind fun t _ => ?_
  split
  · exact leaves_publishVendor
  · exact .pure trivial

theorem leaves_rebuildRoutes (b : Batch) : Leaves s b.rebuildRoutes := by
  intro t kept
  obtain ⟨changed, log, routes, ran, -⟩ := rebuildRoutesOf_eq b t
  rw [ran]
  exact ⟨kept, trivial⟩

theorem leaves_locateChanges (s : State) (changes : List Change) :
    Keeps (· = s) (fun _ _ => True) (fun _ => True) (locateChanges changes) := by
  refine .get_bind fun t _ => (Keeps.mapM (R := fun _ => True) fun c _ => ?_).mono fun _ _ => trivial
  exact (keeps_realPathOf (fun _ _ _ _ => trivial) fun _ _ _ _ => trivial).bind fun p _ =>
    .pure trivial

/-! ## Planning -/

theorem plan_perm (base : s.base.IsProper) (recorded : Recorded s) (definite : Definite changes s)
    (perm : changes.Perm changes') : plan changes s = plan changes' s := by
  refine Agree.eq (Agree.bind (.of_eq rfl) fun _ _ _ got same => ?_)
  obtain ⟨rfl, rfl⟩ := get_ok_iff.1 got
  subst same
  refine (locateChanges_perm base perm definite).bind fun located located' t ran reordered => ?_
  obtain rfl : t = s := ((leaves_locateChanges s changes).ok rfl ran).1
  have alternative := Alternative.ofChanges reordered
  generalize Batch.ofChanges t.layout located = batch at alternative ⊢
  generalize Batch.ofChanges t.layout located' = batch' at alternative ⊢
  have vendor : batch.publishVendor = batch'.publishVendor := by
    rw [Batch.publishVendor, alternative.vendor]
    rfl
  have routes : batch.rebuildRoutes = batch'.rebuildRoutes := by
    have none : batch.templates.isEmpty = batch'.templates.isEmpty := by
      rw [Bool.eq_iff_iff, List.isEmpty_iff, List.isEmpty_iff]
      exact ⟨fun none => (none ▸ alternative.templates.perm).nil_eq.symm,
        fun none => (none ▸ alternative.templates.perm).eq_nil⟩
    rw [Batch.rebuildRoutes, none]
    rfl
  dsimp only
  rw [alternative.images, alternative.scripts, alternative.styles, vendor, routes]
  refine Agree.bind (.of_eq rfl) fun images _ t₁ ran same => ?_
  have kept := ((leaves_publishImages batch'.images).ok ⟨rfl, rfl, rfl⟩ ran).1
  subst same
  refine Agree.bind (.of_eq rfl) fun published _ t₂ ran same => ?_
  have kept := ((leaves_publishVendorOf batch').ok kept ran).1
  subst same
  refine Agree.bind (.of_eq rfl) fun changed _ t₃ ran same => ?_
  have kept := ((leaves_rebuildRoutes batch').ok kept ran).1
  subst same
  refine Agree.bind (.of_eq rfl) fun _ _ _ got same => ?_
  obtain ⟨rfl, rfl⟩ := get_ok_iff.1 got
  subst same
  have recorded : Recorded t₃ := by
    obtain ⟨operations, same⟩ := recorded
    exact ⟨operations, by rw [kept.1, kept.2.1, same]⟩
  refine Agree.bind (.of_eq (affectedRoots_reordered alternative.templates kept.2.2 recorded _)) ?_
  exact fun roots _ _ _ same => .pure (same ▸ rfl)

def writtenAnew : List Change :=
  [⟨.deleted, aboutPage.text⟩, ⟨.added, aboutPage.text⟩]

end Folio.Build
