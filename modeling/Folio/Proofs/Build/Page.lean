import Folio.Build.Page
import Folio.Proofs.Build.Step

/-!
# What rendering pages does

A page is recorded under the real path of its root with names that its lookups resolve to while it
is rendered, and no page publishes anything (`compilePages_ok`). Each root in the list that lies at
its own place is recorded.
-/

namespace Folio.Build

/-- What the journal holds of pages alone: only pages were made, and nothing was published. -/
def OnlyPages (new : Journal) : Prop :=
  ∀ event ∈ new, ∃ source names, event = .made .page source names

theorem OnlyPages.append {first second : Journal} (one : OnlyPages first) (two : OnlyPages second) :
    OnlyPages (second ++ first) := by
  intro event member
  rcases List.mem_append.1 member with member | member
  · exact two event member
  · exact one event member

theorem OnlyPages.resolve {new : Journal} (pages : OnlyPages new) (old : Journal) (path : String) :
    Journal.resolve (new ++ old) path = old.resolve path := by
  refine Journal.resolve_append (fun physical member => ?_) old
  obtain ⟨source, names, same⟩ := pages _ member
  cases same

/-- Whether a path is its own real path and a file. -/
structure IsPlain (s : State) (p : Path) : Prop where
  file : s.files.isFile p = true
  place : realPath s.files p = .ok p

instance (s : State) (p : Path) : Decidable (IsPlain s p) :=
  decidable_of_iff (s.files.isFile p = true ∧ (realPath s.files p).toOption = some p) <| by
    have place : (realPath s.files p).toOption = some p ↔ realPath s.files p = .ok p := by
      cases realPath s.files p <;> simp [Except.toOption]
    rw [place]
    exact ⟨fun ⟨file, place⟩ => ⟨file, place⟩, fun plain => ⟨plain.file, plain.place⟩⟩

theorem compilePage_ok {root : Path} {more : Template.Variables} {out : Except Fault Page}
    {s s' : State} (ran : compilePage root more s = .ok out s') :
    (∃ place, realPath s.files root = .ok place ∧ place.isBelow s.layout.views) ∧
      ((∃ f, out = .error f ∧ s = s') ∨
        ∃ page place files lookups, out = .ok page ∧ realPath s.files root = .ok place ∧
          s.made .page place files (s.named lookups) = s') := by
  obtain ⟨place, s₁, followed, ran⟩ := bind_ok_iff.1 ran
  obtain ⟨found, rfl⟩ := realPathOf_ok followed
  obtain ⟨_, _, got, ran⟩ := bind_ok_iff.1 ran
  obtain ⟨rfl, rfl⟩ := get_ok_iff.1 got
  obtain ⟨segments, s₁, below, ran⟩ := bind_ok_iff.1 ran
  obtain ⟨under, rfl⟩ := belowOf_ok below
  refine ⟨⟨place, found, Path.isBelow_of_below? under⟩, ?_⟩
  revert ran
  cases Template.render s.templateSite (s.pageVariables (Written.text ⟨.relative, segments⟩) more)
    (Written.text ⟨.relative, segments⟩) place.text with
  | error stop =>
    intro ran
    cases stop with
    | crash c => exact absurd ran throw_ne_ok
    | fault f =>
      obtain ⟨rfl, rfl⟩ := pure_ok_iff.1 ran
      exact Or.inl ⟨_, rfl, rfl⟩
    | cause c =>
      obtain ⟨rfl, rfl⟩ := pure_ok_iff.1 ran
      exact Or.inl ⟨_, rfl, rfl⟩
  | ok rendered =>
    intro ran
    obtain ⟨_, s₂, recorded, ran⟩ := bind_ok_iff.1 ran
    obtain rfl := modify_ok_iff.1 recorded
    obtain ⟨rfl, rfl⟩ := pure_ok_iff.1 ran
    exact Or.inr ⟨_, place, _, rendered.lookups, rfl, found, rfl⟩

/-- What rendering some roots from a state has done. -/
structure Rendered (new : Journal) (s s' : State) : Prop where
  ran : Ran Eq new s s'
  pages : OnlyPages new
  recorded : ∀ source, (s.dependencies.edges.lookup source).isSome →
    (s'.dependencies.edges.lookup source).isSome

theorem Rendered.trans {first second : Journal} {s s' s'' : State} (one : Rendered first s s')
    (two : Rendered second s' s'') : Rendered (second ++ first) s s'' where
  ran := one.ran.trans two.ran
  pages := one.pages.append two.pages
  recorded source found := two.recorded source (one.recorded source found)

theorem Rendered.of_alike {s s' : State} (coherent : Coherent s) (alike : Alike s s') :
    Rendered [] s s' where
  ran := .of_alike coherent alike
  pages _ member := nomatch member
  recorded _ found := alike.dependencies ▸ found

theorem Rendered.made {s : State} (coherent : Coherent s) (place : Path) (files lookups : List String) :
    Rendered [.made .page (normalize s.base place.text) (s.named lookups)] s
      (s.made .page place files (s.named lookups)) where
  ran := .made coherent .page place files
    ⟨trivial, s.journal, coherent.resolved_named lookups, Or.inl rfl⟩
  pages event member := ⟨_, _, List.mem_singleton.1 member⟩
  recorded source found := by
    simp only [State.made, Dependencies.lookup_edges_record]
    split
    · rfl
    · exact found

theorem addPage_ok {root : Path} {r r' : StageResult} {s s' : State} (coherent : Coherent s)
    (ran : addPage root r s = .ok r' s') :
    ∃ new, Rendered new s s' ∧
      (∃ place, realPath s.files root = .ok place ∧ place.isBelow s.layout.views) ∧
      (r'.failures = [] → r.failures = [] ∧ ∀ place, realPath s.files root = .ok place →
        ∃ names, .made .page (normalize s.base place.text) names ∈ new) := by
  obtain ⟨out, s₁, made, ran⟩ := bind_ok_iff.1 ran
  obtain ⟨under, outcome⟩ := compilePage_ok made
  rcases outcome with ⟨f, rfl, rfl⟩ | ⟨page, place, files, lookups, rfl, found, rfl⟩
  · obtain ⟨noted, -, failures⟩ := failWith_ok ran
    refine ⟨[], .of_alike coherent noted, under, fun none => ?_⟩
    simp [failures] at none
  · obtain ⟨_, _, got, ran⟩ := bind_ok_iff.1 ran
    obtain ⟨rfl, rfl⟩ := get_ok_iff.1 got
    obtain ⟨segments, s₂, below, ran⟩ := bind_ok_iff.1 ran
    obtain ⟨-, rfl⟩ := belowOf_ok below
    obtain ⟨_, s₃, written, ran⟩ := bind_ok_iff.1 ran
    obtain ⟨path, s₄, logical, ran⟩ := bind_ok_iff.1 ran
    obtain ⟨-, rfl⟩ := logicalPathOf_ok logical
    obtain ⟨_, s₅, noted, ran⟩ := bind_ok_iff.1 ran
    obtain ⟨rfl, rfl⟩ := pure_ok_iff.1 ran
    have recorded := Rendered.made coherent place files lookups
    have alike := (quiet_onFiles _ _ _ _ _ written).trans (quiet_noteCompiled _ _ _ _ noted)
    refine ⟨_, recorded.trans (.of_alike recorded.ran.coherent alike), under,
      fun none => ⟨none, ?_⟩⟩
    intro place' found'
    rw [found] at found'
    cases found'
    exact ⟨_, List.mem_singleton_self _⟩

theorem compilePages_ok {roots : List Path} {r r' : StageResult} {s s' : State}
    (coherent : Coherent s) (ran : compilePages roots r s = .ok r' s') :
    ∃ new, Rendered new s s' ∧ (r'.failures = [] → r.failures = []) ∧
      ∀ before root after x t, roots = before ++ root :: after →
        compilePages before r s = .ok x t →
        ∃ place, realPath t.files root = .ok place ∧ place.isBelow s.layout.views ∧
          (r'.failures = [] → ∃ names, .made .page (normalize s.base place.text) names ∈ new) := by
  induction roots generalizing r s with
  | nil =>
    obtain ⟨rfl, rfl⟩ := pure_ok_iff.1 ran
    refine ⟨[], .of_alike coherent (Alike.refl s), id, ?_⟩
    intro before root after x t split
    simp at split
  | cons root roots ih =>
    obtain ⟨r₁, s₁, added, ran⟩ := bind_ok_iff.1 ran
    obtain ⟨first, one, ⟨place, found, under⟩, complete⟩ := addPage_ok coherent added
    obtain ⟨second, two, complete', later⟩ := ih one.ran.coherent ran
    refine ⟨second ++ first, one.trans two, fun none => (complete (complete' none)).1, ?_⟩
    intro before root' after x t split reached
    cases before with
    | nil =>
      obtain ⟨rfl, rfl⟩ := List.cons_eq_cons.1 split
      obtain ⟨rfl, rfl⟩ := pure_ok_iff.1 reached
      refine ⟨place, found, under, fun none => ?_⟩
      obtain ⟨names, member⟩ := (complete (complete' none)).2 place found
      exact ⟨names, List.mem_append_right _ member⟩
    | cons first' before =>
      obtain ⟨rfl, rest⟩ := List.cons_eq_cons.1 split
      obtain ⟨r₂, s₂, added', reached⟩ := bind_ok_iff.1 reached
      rw [added] at added'
      cases added'
      obtain ⟨place, found, under, made⟩ := later before root' after x t rest reached
      refine ⟨place, found, one.ran.layout ▸ under, fun none => ?_⟩
      obtain ⟨names, member⟩ := made none
      exact ⟨names, List.mem_append_left _ (one.ran.base ▸ member)⟩

/-- Pages are rendered in turn. -/
theorem exists_turn {before roots : List Path} {r r' : StageResult} {s s' : State}
    (ran : compilePages (before ++ roots) r s = .ok r' s') :
    ∃ x t, compilePages before r s = .ok x t := by
  induction before generalizing r s with
  | nil => exact ⟨r, s, rfl⟩
  | cons root before ih =>
    obtain ⟨r₁, s₁, added, ran⟩ := bind_ok_iff.1 ran
    obtain ⟨x, t, reached⟩ := ih ran
    exact ⟨x, t, bind_ok_iff.2 ⟨r₁, s₁, added, reached⟩⟩

end Folio.Build
