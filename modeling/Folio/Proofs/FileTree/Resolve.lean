import Folio.FileTree.Basic
import Folio.Proofs.Path

/-!
# Paths without links

Resolving a path gives a proper one (`realPath_isProper`), through whatever links it leads: all that
it goes by are segments, and those that lead back are taken back at the end.
-/

namespace Folio

/-- Whether all parts of a path are segments, of which some may lead back. -/
def Path.IsSegmented (p : Path) : Prop :=
  ∀ segment ∈ p.segments, IsSegment segment

namespace Path.IsSegmented

variable {p : Path}

theorem child (segmented : p.IsSegmented) {name : String} (segment : IsSegment name) :
    (p.child name).IsSegmented := by
  intro other member
  rcases List.mem_append.1 member with member | member
  · exact segmented other member
  · rw [List.mem_singleton.1 member]
    exact segment

theorem append (segmented : p.IsSegmented) {names : List String}
    (segments : ∀ name ∈ names, IsSegment name) : (p.append names).IsSegmented := by
  intro other member
  rcases List.mem_append.1 member with member | member
  · exact segmented other member
  · exact segments other member

theorem parent (segmented : p.IsSegmented) : p.parent.IsSegmented :=
  fun other member => segmented other (List.dropLast_subset _ member)

theorem ofText {base : Path} (segmented : base.IsSegmented) (s : String) :
    (Path.ofText base s).IsSegmented := by
  have written : ∀ name ∈ (Written.ofText s).segments, IsSegment name :=
    fun name member => isSegment_of_mem member
  unfold Path.ofText
  dsimp only
  split
  · exact segmented.append written
  · exact written

end Path.IsSegmented

theorem Path.IsProper.segmented {p : Path} (proper : p.IsProper) : p.IsSegmented :=
  proper.plain

namespace FileTree

variable {t : FileTree}

theorem linkStart_segmented {here : Path} (segmented : here.IsSegmented) (w : Written) :
    (linkStart here w).IsSegmented := by
  unfold linkStart
  split
  · exact segmented
  · exact fun name member => nomatch member

/-- Whether all names that are left to go by are segments. -/
def Segmented (steps : List Step) : Prop :=
  ∀ name ∈ steps.filterMap Step.name?, IsSegment name

theorem names_map_enter (names : List String) :
    (names.map Step.enter).filterMap Step.name? = names := by
  rw [List.filterMap_map]
  exact List.filterMap_some

/-- Whether the ends of links that are known are segmented. -/
def EndsSegmented (ends : Ends) : Prop :=
  ∀ link p, ends.lookup link = some (some p) → p.IsSegmented

theorem EndsSegmented.cons {ends : Ends} (known : EndsSegmented ends) (link : Path)
    {e : Option Path} (segmented : ∀ p, e = some p → p.IsSegmented) :
    EndsSegmented ((link, e) :: ends) := by
  intro other p found
  by_cases same : other = link
  · subst same
    rw [List.lookup_cons_self] at found
    exact segmented p (Option.some.inj found)
  · rw [List.lookup_cons, beq_eq_false_iff_ne.2 same] at found
    exact known other p found

/-- What a way on from a link keeps. -/
def KeepsSegments (follow : Ends → Path → List Step → Path) : Prop :=
  ∀ ends here steps, EndsSegmented ends → here.IsSegmented → Segmented steps →
    (follow ends here steps).IsSegmented

theorem resolveOn_keepsSegments {follow : Option (Ends → Path → List Step → Path)}
    (further : ∀ f, follow = some f → KeepsSegments f) : KeepsSegments (t.resolveOn follow) := by
  intro ends here steps
  induction steps generalizing ends here with
  | nil => exact fun _ segmented _ => segmented
  | cons step rest ih =>
    intro known segmented steps
    cases step with
    | leave link =>
      exact ih _ _ (known.cons link fun p same => Option.some.inj same ▸ segmented) segmented steps
    | enter name =>
      obtain ⟨first, later⟩ := List.forall_mem_cons.1 (show ∀ n ∈ name :: _, IsSegment n from steps)
      have next := segmented.child first
      simp only [resolveOn]
      split
      · exact ih _ _ known segmented.parent later
      · split
        · next target found =>
          split
          · next q ended => exact ih _ _ known (known _ q ended) later
          · exact next.append later
          · split
            · exact next.append later
            · next f =>
              refine further f rfl _ _ _ (known.cons _ fun p same => nomatch same)
                (linkStart_segmented segmented _) fun name member => ?_
              rw [List.filterMap_append, names_map_enter] at member
              rcases List.mem_append.1 member with written | left
              · exact isSegment_of_mem written
              · exact later name left
        · exact ih _ _ known next later

theorem resolveFrom_keepsSegments (links : Nat) : KeepsSegments (t.resolveFrom links) := by
  induction links with
  | zero => exact resolveOn_keepsSegments fun f same => nomatch same
  | succ links ih => exact resolveOn_keepsSegments fun f same => Option.some.inj same ▸ ih

theorem resolve_isProper {p : Path} (segmented : p.IsSegmented) : (t.resolve p).IsProper := by
  have steps : Segmented (p.segments.map .enter) := by
    rw [Segmented, names_map_enter]
    exact segmented
  have reached := resolveFrom_keepsSegments (t := t) t.entries.length [] Path.root _
    (fun _ _ found => nomatch found) (fun _ member => nomatch member) steps
  intro segment member
  obtain ⟨kept, other⟩ := Path.mem_collapse member
  exact ⟨reached segment kept, other⟩

theorem realPath_eq_resolve {p q : Path} (found : t.realPath p = .ok q) : t.resolve p = q := by
  unfold realPath at found
  split at found
  · cases found
  · split at found
    · cases found
    · exact Except.ok.inj found

theorem realPath_isProper {p q : Path} (segmented : p.IsSegmented) (found : t.realPath p = .ok q) :
    q.IsProper :=
  realPath_eq_resolve found ▸ resolve_isProper segmented

end FileTree

end Folio
