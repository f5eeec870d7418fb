import Folio.Proofs.Build.Craft

/-!
# What stages list

A stage lists the file and the public path of each source that it finishes, and the faults of the
others. What holds of an empty result and outlasts such entries (`Collects`) holds of the result of a
stage, be its sources taken one after another (`Collects.runAll`) or those of two stages in turn
(`Collects.runTogether`).
-/

namespace Folio.Build

variable {I : State → Prop} {E : Abort → State → Prop} {l : Layout} {Place : Path → Prop}
  {R : StageResult → Prop} {craft : Craft}

/-- What holds of results that list files at certain places below the output. -/
structure Collects (l : Layout) (Place : Path → Prop) (R : StageResult → Prop) : Prop where
  below : ∀ file, Place file → file.isBelow l.output = true
  empty : R .empty
  append : ∀ r more, R r → R more → R (r.append more)
  addOutput : ∀ r file path, R r → Place file → l.logicalPath file = some path →
    R (r.addOutput path file)
  addFailure : ∀ r f, R r → R (r.addFailure f)

/-- Whether a source that is prepared is finished with a file at its place, or with a fault. -/
abbrev Craft.Ends (craft : Craft) (I : State → Prop) (E : Abort → State → Prop)
    (Place : Path → Prop) (source : Path) (prepared : craft.Prepared) : Prop :=
  Keeps I E (fun o => ∀ file, o = .ok file → Place file) (craft.finish source prepared)

/-- Whether both steps of a craft take a source to a file at its place, or to a fault. -/
abbrev Craft.Yields (craft : Craft) (I : State → Prop) (E : Abort → State → Prop)
    (Place : Path → Prop) (source : Path) : Prop :=
  Keeps I E (fun out => ∀ prepared, out = .ok prepared → craft.Ends I E Place source prepared)
    (craft.prepare source)

/-- Whether a lane comes to files at their places. -/
structure Lane.Yields (I : State → Prop) (E : Abort → State → Prop) (Place : Path → Prop)
    (R : StageResult → Prop) (lane : Lane craft) : Prop where
  prepared : ∀ source prepared, lane.prepared = some (source, prepared) →
    craft.Ends I E Place source prepared
  waiting : ∀ source ∈ lane.waiting, craft.Yields I E Place source
  result : R lane.result

variable (collects : Collects l Place R) (note : ∀ line, Keeps I E (fun _ => True) (note line))

include collects

theorem Collects.start {sources : List Path}
    (each : ∀ source ∈ sources, craft.Yields I E Place source) :
    Lane.Yields I E Place R (.start craft sources) :=
  ⟨fun _ _ same => (nomatch same), each, collects.empty⟩

include note

theorem Collects.failWith {r : StageResult} (listed : R r) (f : Fault) :
    Keeps I E R (failWith r f) :=
  (note _).bind fun _ _ => .pure (collects.addFailure r f listed)

variable (layout : ∀ s, I s → s.layout = l)

include layout

/-- A file is listed together with its public path. -/
theorem Collects.conclude {r : StageResult} (listed : R r) {o : Outcome}
    (made : ∀ file, o = .ok file → Place file) : Keeps I E R (Lane.conclude r o) := by
  cases o with
  | error f => exact collects.failWith note listed f
  | ok file =>
    have place := made file rfl
    exact (keeps_logicalPathOf layout (collects.below file place)).bind fun path logical =>
      .pure (collects.addOutput r file path listed place logical)

theorem Collects.step {lane : Lane craft} (yields : lane.Yields I E Place R) :
    Keeps I E (Lane.Yields I E Place R) lane.step := by
  obtain ⟨prepared, waiting, r⟩ := lane
  have rest {r : StageResult} {waiting : List Path} (listed : R r)
      (each : ∀ source ∈ waiting, craft.Yields I E Place source) :
      Lane.Yields I E Place R (⟨none, waiting, r⟩ : Lane craft) :=
    ⟨fun _ _ same => (nomatch same), each, listed⟩
  cases prepared with
  | some pair =>
    obtain ⟨source, prepared⟩ := pair
    refine (yields.prepared source prepared rfl).bind fun outcome made => ?_
    exact (collects.conclude note layout yields.result made).bind fun r listed =>
      .pure (rest listed yields.waiting)
  | none =>
    cases waiting with
    | nil => exact .pure yields
    | cons source waiting =>
      obtain ⟨first, later⟩ := List.forall_mem_cons.1 yields.waiting
      refine first.bind fun out ready => ?_
      cases out with
      | error f =>
        exact (collects.failWith note yields.result f).bind fun r listed =>
          .pure (rest listed later)
      | ok prepared =>
        refine .pure ⟨fun _ _ same => ?_, later, yields.result⟩
        cases same
        exact ready prepared rfl

theorem Collects.run {count : Nat} {lane : Lane craft}
    (yields : lane.Yields I E Place R) : Keeps I E R (lane.run count) := by
  induction count generalizing lane with
  | zero => exact .pure yields.result
  | succ count ih =>
    exact (collects.step note layout yields).bind fun lane yields => ih yields

theorem Collects.runAll {sources : List Path}
    (each : ∀ source ∈ sources, craft.Yields I E Place source) :
    Keeps I E R (runAll craft sources) :=
  collects.run note layout (collects.start each)

theorem Collects.runTogether {schedule : Schedule} {a : Lane scriptCraft} {b : Lane styleCraft}
    (scripts : a.Yields I E Place R) (styles : b.Yields I E Place R) :
    Keeps I E R (runTogether schedule a b) := by
  induction schedule generalizing a b with
  | nil =>
    exact (collects.run note layout scripts).bind fun _ one =>
      (collects.run note layout styles).bind fun _ two =>
        .pure (collects.append _ _ one two)
  | cons turn rest ih =>
    cases turn with
    | script =>
      exact (collects.step note layout scripts).bind fun a scripts => ih scripts styles
    | style =>
      exact (collects.step note layout styles).bind fun b styles => ih scripts styles

end Folio.Build
