import Folio.Build.Asset
import Folio.Proofs.Build.Step

/-!
# What the stages of assets do

Each craft takes a source from one state to another in one of the ways of `Finished`; lanes put
these together, one after another (`runAll_ok`) or side by side (`runTogether_ok`).
-/

namespace Folio.Build

/-! ## Publishing -/

theorem quiet_removeEarlier (earlier : Option String) (physical : String) :
    Quiet (removeEarlier earlier physical) := by
  unfold removeEarlier
  cases earlier with
  | none => exact quiet_pure ()
  | some old =>
    dsimp only
    split
    · exact quiet_get.bind fun s => quiet_onFiles _ _
    · exact quiet_pure ()

/-- What is recorded once some content of a path was published. -/
theorem get?_published (s : State) (path : String) (content : Bytes) (other : String) :
    (s.published path content).store.get? other =
      if s.store.enabled = true ∧ other = path then some (s.store.physical path content)
      else s.store.get? other := by
  rw [State.published, Asset.Store.publish]
  by_cases enabled : s.store.enabled = true
  · rw [if_pos enabled, Asset.Store.get?]
    by_cases same : other = path
    · rw [if_pos ⟨enabled, same⟩, same, Table.lookup_put_self]
    · rw [if_neg fun both => same both.2, Table.lookup_put_of_ne same, Asset.Store.get?]
  · rw [if_neg enabled, if_neg fun both => enabled both.1]

theorem publish_ok {path : String} {content : Bytes} {file : Path} {s s' : State}
    (ran : publish path content s = .ok file s') :
    file = s.layout.outputFile path ∧ Alike (s.published path content) s' := by
  obtain ⟨_, _, got, ran⟩ := bind_ok_iff.1 ran
  obtain ⟨rfl, rfl⟩ := get_ok_iff.1 got
  obtain ⟨_, s₁, recorded, ran⟩ := bind_ok_iff.1 ran
  obtain rfl := modify_ok_iff.1 recorded
  obtain ⟨_, s₂, written, ran⟩ := bind_ok_iff.1 ran
  obtain ⟨_, s₃, removed, ran⟩ := bind_ok_iff.1 ran
  obtain ⟨_, s₄, noted, ran⟩ := bind_ok_iff.1 ran
  obtain ⟨rfl, rfl⟩ := pure_ok_iff.1 ran
  refine ⟨rfl, ?_⟩
  exact ((quiet_onFiles _ _ _ _ _ written).trans (quiet_removeEarlier _ _ _ _ _ removed)).trans
    (quiet_noteCompiled _ _ _ _ noted)

/-- How a craft takes a source to its end, where `moment` is the journal at its preparation. A craft
that does not record its sources may leave them unrecorded or even unpublished. -/
inductive Finished (records : Prop) (moment : Journal) (source : Path) (s : State) :
    Outcome → State → Prop
  | failed (f : Fault) {s' : State} (alike : Alike s s') : Finished records moment source s (.error f) s'
  | placed (bare : ¬ records) (file : Path) {s' : State} (alike : Alike s s') :
      Finished records moment source s (.ok file) s'
  | published (bare : ¬ records) (path : String) (content : Bytes) {s' : State}
      (alike : Alike (s.published path content) s') :
      Finished records moment source s (.ok (s.layout.outputFile path)) s'
  | made (full : records) (path : String) (content : Bytes) {names : Names}
      (resolved : Resolved moment names ∨ Resolved s.journal names) {s' : State}
      (alike : Alike ((s.published path content).made .asset source [] names) s') :
      Finished records moment source s (.ok (s.layout.outputFile path)) s'

theorem publishText_ok {moment : Journal} {source output : Path} {text : String}
    {names : Names} {out : Outcome} {s s' : State}
    (resolved : Resolved moment names ∨ Resolved s.journal names)
    (ran : publishText source output text names s = .ok out s') :
    Finished True moment source s out s' := by
  obtain ⟨path, s₁, logical, ran⟩ := bind_ok_iff.1 ran
  obtain ⟨-, rfl⟩ := logicalPathOf_ok logical
  obtain ⟨file, s₂, published, ran⟩ := bind_ok_iff.1 ran
  obtain ⟨rfl, alike⟩ := publish_ok published
  obtain ⟨_, s₃, recorded, ran⟩ := bind_ok_iff.1 ran
  obtain rfl := modify_ok_iff.1 recorded
  obtain ⟨rfl, rfl⟩ := pure_ok_iff.1 ran
  exact .made trivial path _ resolved (alike.made .asset source [] names)

/-! ## Crafts -/

/-- What the two steps of a craft do. `Ready` says what the first finds out about the moment. -/
structure Craft.Lawful (craft : Craft) (records : Prop)
    (Ready : Journal → craft.Prepared → Prop) : Prop where
  prepare : ∀ {source : Path} {out : Except Fault craft.Prepared} {s s' : State},
    craft.prepare source s = .ok out s' →
      Alike s s' ∧ ∀ p, out = .ok p → Coherent s → Ready s.journal p
  finish : ∀ {source : Path} {p : craft.Prepared} {out : Outcome} {s s' : State},
    craft.finish source p s = .ok out s' → Coherent s → ∀ moment, Ready moment p →
      Finished records moment source s out s'

theorem lawful_scriptCraft : scriptCraft.Lawful True fun _ _ => True where
  prepare := by
    intro source out s s' ran
    obtain ⟨content, s₁, read, ran⟩ := bind_ok_iff.1 ran
    obtain ⟨rfl, rfl⟩ := pure_ok_iff.1 ran
    exact ⟨quiet_onFiles _ _ _ _ _ read, fun _ _ _ => trivial⟩
  finish := by
    intro source content out s s' ran coherent moment _
    obtain ⟨_, _, got, ran⟩ := bind_ok_iff.1 ran
    obtain ⟨rfl, rfl⟩ := get_ok_iff.1 got
    cases decoded : Text.decodeSource content source.text with
    | error f =>
      rw [decoded] at ran
      obtain ⟨rfl, rfl⟩ := pure_ok_iff.1 ran
      exact .failed f (Alike.refl _)
    | ok text =>
      rw [decoded] at ran
      cases injection : Script.inject s.routes s.store.resolve text with
      | error d =>
        simp only [injection] at ran
        obtain ⟨rfl, rfl⟩ := pure_ok_iff.1 ran
        exact .failed _ (Alike.refl _)
      | ok injected =>
        simp only [injection] at ran
        obtain ⟨segments, s₁, below, ran⟩ := bind_ok_iff.1 ran
        obtain ⟨-, rfl⟩ := belowOf_ok below
        exact publishText_ok (Or.inr (coherent.resolved_named _)) ran

/-- A stylesheet was compiled with names that its paths resolved to at a moment. -/
def CompiledAt (moment : Journal) (p : styleCraft.Prepared) : Prop :=
  Resolved moment p.2

theorem lawful_styleCraft : styleCraft.Lawful True CompiledAt where
  prepare := by
    intro source out s s' ran
    obtain ⟨_, _, got, ran⟩ := bind_ok_iff.1 ran
    obtain ⟨rfl, rfl⟩ := get_ok_iff.1 got
    split at ran
    · obtain ⟨_, _, thrown, -⟩ := bind_ok_iff.1 ran
      exact absurd thrown throw_ne_ok
    · cases compilation :
        Style.compile s.files s.base s.layout.styles s.store.resolve s.production source with
      | error f =>
        simp only [compilation] at ran
        obtain ⟨rfl, rfl⟩ := pure_ok_iff.1 ran
        exact ⟨Alike.refl s, fun p same => nomatch same⟩
      | ok compiled =>
        simp only [compilation] at ran
        obtain ⟨rfl, rfl⟩ := pure_ok_iff.1 ran
        refine ⟨Alike.refl s, fun p same coherent => ?_⟩
        cases same
        exact coherent.resolved_named _
  finish := by
    intro source p out s s' ran coherent moment resolved
    obtain ⟨_, _, got, ran⟩ := bind_ok_iff.1 ran
    obtain ⟨rfl, rfl⟩ := get_ok_iff.1 got
    obtain ⟨segments, s₁, below, ran⟩ := bind_ok_iff.1 ran
    obtain ⟨-, rfl⟩ := belowOf_ok below
    exact publishText_ok (Or.inl resolved) ran

theorem lawful_imageCraft : imageCraft.Lawful False fun _ _ => True where
  prepare := by
    intro source out s s' ran
    obtain ⟨_, _, got, ran⟩ := bind_ok_iff.1 ran
    obtain ⟨rfl, rfl⟩ := get_ok_iff.1 got
    obtain ⟨segments, s₁, below, ran⟩ := bind_ok_iff.1 ran
    obtain ⟨-, rfl⟩ := belowOf_ok below
    obtain ⟨rfl, rfl⟩ := pure_ok_iff.1 ran
    exact ⟨Alike.refl _, fun _ _ _ => trivial⟩
  finish := by
    intro source output out s s' ran coherent moment _
    obtain ⟨_, _, got, ran⟩ := bind_ok_iff.1 ran
    obtain ⟨rfl, rfl⟩ := get_ok_iff.1 got
    split at ran
    · obtain ⟨content, s₁, read, ran⟩ := bind_ok_iff.1 ran
      have same := quiet_onFiles _ _ _ _ _ read
      obtain ⟨path, s₂, logical, ran⟩ := bind_ok_iff.1 ran
      obtain ⟨-, rfl⟩ := logicalPathOf_ok logical
      obtain ⟨file, s₃, published, ran⟩ := bind_ok_iff.1 ran
      obtain ⟨rfl, alike⟩ := publish_ok published
      obtain ⟨rfl, rfl⟩ := pure_ok_iff.1 ran
      rw [same.layout]
      exact .published not_false path content ((same.published path content).trans alike)
    · obtain ⟨_, s₁, linked, ran⟩ := bind_ok_iff.1 ran
      obtain ⟨path, s₂, logical, ran⟩ := bind_ok_iff.1 ran
      obtain ⟨-, rfl⟩ := logicalPathOf_ok logical
      obtain ⟨_, s₃, noted, ran⟩ := bind_ok_iff.1 ran
      obtain ⟨rfl, rfl⟩ := pure_ok_iff.1 ran
      exact .placed not_false output
        ((quiet_onFiles _ _ _ _ _ linked).trans (quiet_noteCompiled _ _ _ _ noted))

/-! ## What a stage adds to the journal -/

/-- Whatever some events publish is known by one of these files. -/
def Covered (l : Layout) (files : List Path) (new : Journal) : Prop :=
  ∀ path physical, .published path physical ∈ new → l.outputFile path ∈ files

theorem covered_nil {l : Layout} {files : List Path} : Covered l files [] :=
  fun _ _ member => nomatch member

theorem Covered.append {l : Layout} {earlier later : List Path} {first second : Journal}
    (one : Covered l earlier first) (two : Covered l later second) :
    Covered l (earlier ++ later) (second ++ first) := by
  intro path physical member
  rcases List.mem_append.1 member with member | member
  · exact List.mem_append_right _ (two path physical member)
  · exact List.mem_append_left _ (one path physical member)

/-- Whatever some events make is an asset of one of these sources, and nothing unless they are
recorded. -/
def MadeFrom (records : Prop) (base : Path) (sources : List Path) (new : Journal) : Prop :=
  ∀ kind name names, .made kind name names ∈ new →
    records ∧ kind = .asset ∧ ∃ source ∈ sources, normalize base source.text = name

theorem madeFrom_nil {records : Prop} {base : Path} {sources : List Path} :
    MadeFrom records base sources [] :=
  fun _ _ _ member => nomatch member

theorem MadeFrom.append {records : Prop} {base : Path} {sources more : List Path}
    {first second : Journal} (one : MadeFrom records base sources first)
    (two : MadeFrom records base more second) :
    MadeFrom records base (sources ++ more) (second ++ first) := by
  intro kind name names member
  rcases List.mem_append.1 member with member | member
  · obtain ⟨holds, asset, source, listed, same⟩ := two kind name names member
    exact ⟨holds, asset, source, List.mem_append_right _ listed, same⟩
  · obtain ⟨holds, asset, source, listed, same⟩ := one kind name names member
    exact ⟨holds, asset, source, List.mem_append_left _ listed, same⟩

/-- Each of the sources was made in some events. -/
def AllMade (base : Path) (sources : List Path) (new : Journal) : Prop :=
  ∀ source ∈ sources, ∃ names, .made .asset (normalize base source.text) names ∈ new

theorem allMade_nil {base : Path} {new : Journal} : AllMade base [] new :=
  fun _ member => nomatch member

theorem AllMade.append {base : Path} {sources more : List Path} {first second : Journal}
    (one : AllMade base sources first) (two : AllMade base more second) :
    AllMade base (sources ++ more) (second ++ first) := by
  intro source member
  rcases List.mem_append.1 member with member | member
  · obtain ⟨names, made⟩ := one source member
    exact ⟨names, List.mem_append_right _ made⟩
  · obtain ⟨names, made⟩ := two source member
    exact ⟨names, List.mem_append_left _ made⟩

/-- Each publication in some events is that of an asset that was made of a source. -/
def Compiled : Journal → Prop
  | [] => True
  | .made .asset _ _ :: .published _ _ :: rest => Compiled rest
  | _ => False

theorem Compiled.append {first second : Journal} (one : Compiled first) (two : Compiled second) :
    Compiled (second ++ first) := by
  fun_induction Compiled second with
  | case1 => exact one
  | case2 source names path physical rest ih => exact ih two
  | case3 => exact two.elim

theorem Compiled.exists_made {path physical : String} {recent old : Journal}
    (compiled : Compiled (recent ++ old)) (member : .published path physical ∈ recent) :
    ∃ later source names earlier,
      recent = later ++ .made .asset source names :: .published path physical :: earlier := by
  match recent with
  | [] => cases member
  | [event] =>
    obtain rfl := List.mem_singleton.1 member
    exact compiled.elim
  | .published _ _ :: _ :: _ => exact compiled.elim
  | .made .page _ _ :: _ :: _ => exact compiled.elim
  | .made .asset _ _ :: .made .. :: _ => exact compiled.elim
  | .made .asset source names :: .published other name :: recent =>
    simp only [List.mem_cons, reduceCtorEq, false_or] at member
    rcases member with same | member
    · cases same
      exact ⟨[], source, names, recent, rfl⟩
    · have rest : Compiled (recent ++ old) := compiled
      obtain ⟨later, source', names', earlier, rfl⟩ := rest.exists_made member
      exact ⟨.made .asset source names :: .published other name :: later, source', names', earlier, rfl⟩

theorem Compiled.page_not_mem {new : Journal} (compiled : Compiled new) (source : String)
    (names : Names) : .made .page source names ∉ new := by
  fun_induction Compiled new with
  | case1 => exact List.not_mem_nil
  | case2 source names path physical rest ih => simpa using ih compiled
  | case3 => exact compiled.elim

theorem Finished.ran {records : Prop} {moment : Journal} {source : Path} {s s' : State}
    {out : Outcome} (finished : Finished records moment source s out s')
    {R : Journal → Journal → Prop} (refl : R s.journal s.journal) (near : R moment s.journal)
    (coherent : Coherent s) :
    ∃ new, Ran R new s s' ∧ MadeFrom records s.base [source] new ∧ (records → Compiled new) ∧
      (∀ f, out = .error f → new = []) ∧ ∀ file, out = .ok file → Covered s.layout [file] new ∧
        (records → AllMade s.base [source] new) := by
  cases finished with
  | failed f alike =>
    exact ⟨[], .of_alike coherent alike, madeFrom_nil, fun _ => trivial, fun _ _ => rfl,
      fun file same => (nomatch same)⟩
  | placed bare file alike =>
    exact ⟨[], .of_alike coherent alike, madeFrom_nil, fun _ => trivial, fun _ _ => rfl,
      fun _ _ => ⟨covered_nil, fun records => absurd records bare⟩⟩
  | published bare path content alike =>
    have ran := (Ran.published (R := R) coherent path content).trans
      (.of_alike (coherent.published path content) alike)
    refine ⟨_, ran, ?_, fun records => absurd records bare, fun _ same => (nomatch same), ?_⟩
    · intro kind name names member
      simp at member
    · intro file same
      cases same
      refine ⟨?_, fun records => absurd records bare⟩
      intro other physical member
      simp at member
      simp [member.1]
  | made full path content resolved alike =>
    have made {names : Names} {m : Journal} (resolved : Resolved m names) (near : R m s.journal) :=
      Ran.published_made coherent path content source resolved near
    rename_i names
    have ran : Ran R _ s _ := resolved.elim (fun r => made r near) fun r => made r refl
    refine ⟨_, ran.trans (.of_alike ran.coherent alike), ?_, fun _ => trivial,
      fun _ same => (nomatch same), ?_⟩
    · intro kind name others member
      simp at member
      simp [member, full]
    · intro file same
      cases same
      constructor
      · intro other physical member
        simp at member
        simp [member.1]
      · intro _ other member
        rw [List.mem_singleton.1 member]
        exact ⟨names, List.mem_cons_self ..⟩

/-! ## Lanes -/

namespace Lane

variable {craft : Craft} {records : Prop} {Ready : Journal → craft.Prepared → Prop}
  {R : Journal → Journal → Prop}

/-- The sources that a lane has not finished. -/
def sources (l : Lane craft) : List Path :=
  (l.prepared.map Prod.fst).toList ++ l.waiting

/-- What a lane has prepared was ready at a moment near the journal. -/
def IsReady (Ready : Journal → craft.Prepared → Prop) (R : Journal → Journal → Prop)
    (l : Lane craft) (j : Journal) : Prop :=
  ∀ source p, l.prepared = some (source, p) → ∃ moment, Ready moment p ∧ R moment j

/-- A lane has come some steps further. -/
structure Advance (records : Prop) (R : Journal → Journal → Prop) (new : Journal)
    (l : Lane craft) (s : State) (l' : Lane craft) (s' : State) : Prop where
  ran : Ran R new s s'
  files : ∃ files, l'.result.outputFiles = l.result.outputFiles ++ files ∧ Covered s.layout files new
  compiled : records → Compiled new
  sources : ∃ finished, l.sources = finished ++ l'.sources ∧ MadeFrom records s.base finished new ∧
    (l'.result.failures = [] → l.result.failures = [] ∧ (records → AllMade s.base finished new))

theorem Advance.refl {l : Lane craft} {s s' : State} (coherent : Coherent s) (alike : Alike s s') :
    Advance records R [] l s l s' where
  ran := .of_alike coherent alike
  files := ⟨[], by simp, covered_nil⟩
  compiled _ := trivial
  sources := ⟨[], rfl, madeFrom_nil, fun none => ⟨none, fun _ => allMade_nil⟩⟩

theorem Advance.trans {first second : Journal} {l l' l'' : Lane craft} {s s' s'' : State}
    (one : Advance records R first l s l' s') (two : Advance records R second l' s' l'' s'') :
    Advance records R (second ++ first) l s l'' s'' where
  ran := one.ran.trans two.ran
  files := by
    obtain ⟨earlier, added, covered⟩ := one.files
    obtain ⟨later, added', covered'⟩ := two.files
    rw [one.ran.layout] at covered'
    exact ⟨earlier ++ later, by rw [added', added, List.append_assoc], covered.append covered'⟩
  compiled holds := (one.compiled holds).append (two.compiled holds)
  sources := by
    obtain ⟨earlier, split, made, complete⟩ := one.sources
    obtain ⟨later, split', made', complete'⟩ := two.sources
    rw [one.ran.base] at made' complete'
    refine ⟨earlier ++ later, by rw [split, split', List.append_assoc], made.append made', ?_⟩
    intro none
    obtain ⟨none', all'⟩ := complete' none
    obtain ⟨none, all⟩ := complete none'
    exact ⟨none, fun holds => (all holds).append (all' holds)⟩

end Lane

namespace Lane

variable {craft : Craft} {records : Prop} {Ready : Journal → craft.Prepared → Prop}
  {R : Journal → Journal → Prop}

theorem conclude_ok {r r' : StageResult} {out : Outcome} {s s' : State}
    (ran : conclude r out s = .ok r' s') :
    Alike s s' ∧
      ((∃ f, out = .error f ∧ r'.outputFiles = r.outputFiles ∧ r'.failures = r.failures ++ [f]) ∨
        ∃ file, out = .ok file ∧ r'.outputFiles = r.outputFiles ++ [file] ∧
          r'.failures = r.failures) := by
  cases out with
  | error f =>
    obtain ⟨noted, files, failures⟩ := failWith_ok ran
    exact ⟨noted, Or.inl ⟨f, rfl, files, failures⟩⟩
  | ok file =>
    obtain ⟨path, s₁, logical, ran⟩ := bind_ok_iff.1 ran
    obtain ⟨-, rfl⟩ := logicalPathOf_ok logical
    obtain ⟨rfl, rfl⟩ := pure_ok_iff.1 ran
    exact ⟨Alike.refl s, Or.inr ⟨file, rfl, rfl, rfl⟩⟩

theorem isReady_none (waiting : List Path) (r : StageResult) (j : Journal) :
    IsReady Ready R (⟨none, waiting, r⟩ : Lane craft) j :=
  fun _ _ same => (nomatch same)

/-- One step of a lane; it uses up one of the steps that are left. -/
theorem step_ok (lawful : craft.Lawful records Ready) {l l' : Lane craft} {s s' : State}
    (refl : R s.journal s.journal) (coherent : Coherent s) (ready : l.IsReady Ready R s.journal)
    (ran : l.step s = .ok l' s') :
    (∃ new, Advance records R new l s l' s') ∧ l'.IsReady Ready R s'.journal ∧
      l'.steps ≤ l.steps - 1 := by
  obtain ⟨prepared, waiting, result⟩ := l
  cases prepared with
  | some entry =>
    obtain ⟨source, p⟩ := entry
    obtain ⟨moment, holds, near⟩ := ready source p rfl
    obtain ⟨out, s₁, finished, ran⟩ := bind_ok_iff.1 ran
    obtain ⟨r, s₂, concluded, ran⟩ := bind_ok_iff.1 ran
    obtain ⟨rfl, rfl⟩ := pure_ok_iff.1 ran
    obtain ⟨new, went, made, compiled, unpublished, published⟩ :=
      (lawful.finish finished coherent moment holds).ran refl near coherent
    obtain ⟨alike, outcome⟩ := conclude_ok concluded
    have went : Ran R new s s₂ := went.trans (.of_alike went.coherent alike)
    refine ⟨⟨new, ?_⟩, isReady_none _ _ _, by simp [steps]⟩
    rcases outcome with ⟨f, rfl, files, failures⟩ | ⟨file, rfl, files, failures⟩
    · obtain rfl := unpublished f rfl
      refine ⟨went, ⟨[], by simp [files], covered_nil⟩, compiled, [source], rfl, made,
        fun none => ?_⟩
      simp [failures] at none
    · obtain ⟨covered, all⟩ := published file rfl
      exact ⟨went, ⟨[file], files, covered⟩, compiled, [source], rfl, made,
        fun none => ⟨failures ▸ none, all⟩⟩
  | none =>
    cases waiting with
    | nil =>
      obtain ⟨rfl, rfl⟩ := pure_ok_iff.1 ran
      exact ⟨⟨[], .refl coherent (Alike.refl s)⟩, ready, Nat.zero_le _⟩
    | cons source waiting =>
      obtain ⟨out, s₁, prepared, ran⟩ := bind_ok_iff.1 ran
      obtain ⟨alike, found⟩ := lawful.prepare prepared
      cases out with
      | error f =>
        obtain ⟨r, s₂, concluded, ran⟩ := bind_ok_iff.1 ran
        obtain ⟨rfl, rfl⟩ := pure_ok_iff.1 ran
        obtain ⟨noted, files, failures⟩ := failWith_ok concluded
        refine ⟨⟨[], .of_alike coherent (alike.trans noted), ⟨[], by simp [files], covered_nil⟩,
          fun _ => trivial, [source], rfl, madeFrom_nil, fun none => ?_⟩, isReady_none _ _ _,
          by simp [steps]; omega⟩
        simp [failures] at none
      | ok p =>
        obtain ⟨rfl, rfl⟩ := pure_ok_iff.1 ran
        refine ⟨⟨[], .of_alike coherent alike, ⟨[], by simp, covered_nil⟩, fun _ => trivial, [],
          rfl, madeFrom_nil, fun none => ⟨none, fun _ => allMade_nil⟩⟩, ?_,
          by simp [steps]; omega⟩
        intro source' p' same
        cases same
        exact ⟨s.journal, found p rfl coherent, alike.journal ▸ refl⟩

end Lane

namespace Lane

variable {craft : Craft} {records : Prop} {Ready : Journal → craft.Prepared → Prop}
  {R : Journal → Journal → Prop}

theorem IsReady.grow {l : Lane craft} {j : Journal} (ready : l.IsReady Ready R j)
    (grow : ∀ moment new j, R moment j → R moment (new ++ j)) (new : Journal) :
    l.IsReady Ready R (new ++ j) := by
  intro source p same
  obtain ⟨moment, holds, near⟩ := ready source p same
  exact ⟨moment, holds, grow moment new j near⟩

/-- Enough steps take a lane to its end. -/
theorem run_ok (lawful : craft.Lawful records Ready) {count : Nat} {l : Lane craft} {s s' : State}
    {r : StageResult} (refl : ∀ new, R (new ++ s.journal) (new ++ s.journal)) (coherent : Coherent s)
    (ready : l.IsReady Ready R s.journal) (enough : l.steps ≤ count)
    (ran : l.run count s = .ok r s') :
    ∃ new l', Advance records R new l s l' s' ∧ l'.result = r ∧ l'.sources = [] := by
  induction count generalizing l s with
  | zero =>
    obtain ⟨rfl, rfl⟩ := pure_ok_iff.1 ran
    refine ⟨[], l, .refl coherent (Alike.refl s), rfl, ?_⟩
    obtain ⟨prepared, waiting, result⟩ := l
    cases prepared <;> simp_all [steps, sources]
  | succ count ih =>
    obtain ⟨next, s₁, stepped, ran⟩ := bind_ok_iff.1 ran
    obtain ⟨⟨first, one⟩, ready, fewer⟩ := step_ok lawful (refl []) coherent ready stepped
    have refl (new : Journal) : R (new ++ s₁.journal) (new ++ s₁.journal) := by
      rw [one.ran.journal, ← List.append_assoc]
      exact refl (new ++ first)
    obtain ⟨second, l', two, result, empty⟩ := ih refl one.ran.coherent ready (by omega) ran
    exact ⟨second ++ first, l', one.trans two, result, empty⟩

end Lane

/-- What a stage over some sources of one kind has done. -/
structure Staged (records : Prop) (R : Journal → Journal → Prop) (sources : List Path)
    (new : Journal) (r : StageResult) (s s' : State) : Prop where
  ran : Ran R new s s'
  covered : Covered s.layout r.outputFiles new
  compiled : records → Compiled new
  made : MadeFrom records s.base sources new
  complete : records → r.failures = [] → AllMade s.base sources new
  idle : sources = [] → r = .empty

theorem Staged.append {records : Prop} {R : Journal → Journal → Prop} {sources more : List Path}
    {first second : Journal} {r r' : StageResult} {s s' s'' : State}
    (one : Staged records R sources first r s s') (two : Staged records R more second r' s' s'') :
    Staged records R (sources ++ more) (second ++ first) (r.append r') s s'' where
  ran := one.ran.trans two.ran
  covered := one.covered.append (one.ran.layout ▸ two.covered)
  compiled holds := (one.compiled holds).append (two.compiled holds)
  made := one.made.append (one.ran.base ▸ two.made)
  complete holds none := by
    obtain ⟨none, none'⟩ := List.append_eq_nil_iff.1 none
    exact (one.complete holds none).append (one.ran.base ▸ two.complete holds none')
  idle empty := by
    obtain ⟨rfl, rfl⟩ := List.append_eq_nil_iff.1 empty
    rw [one.idle rfl, two.idle rfl]
    rfl

theorem Lane.Advance.staged {craft : Craft} {records : Prop} {R : Journal → Journal → Prop}
    {new : Journal} {sources : List Path} {l' : Lane craft} {s s' : State}
    (advance : Advance records R new (start craft sources) s l' s') (done : l'.sources = [])
    (idle : sources = [] → l'.result = .empty) :
    Staged records R sources new l'.result s s' := by
  obtain ⟨files, added, covered⟩ := advance.files
  obtain ⟨finished, split, made, complete⟩ := advance.sources
  rw [done, List.append_nil] at split
  have all : finished = sources := split.symm
  subst all
  have files_eq : l'.result.outputFiles = files := added
  exact ⟨advance.ran, files_eq ▸ covered, advance.compiled, made,
    fun holds none => (complete none).2 holds, idle⟩

/-- The stages of one kind compile each source right after its preparation. -/
theorem runAll_ok {craft : Craft} {records : Prop} {Ready : Journal → craft.Prepared → Prop}
    (lawful : craft.Lawful records Ready) {sources : List Path} {s s' : State} {r : StageResult}
    (coherent : Coherent s) (ran : runAll craft sources s = .ok r s') :
    ∃ new, Staged records Eq sources new r s s' := by
  obtain ⟨new, l', advance, rfl, done⟩ := Lane.run_ok lawful (R := Eq) (fun _ => rfl) coherent
    (Lane.isReady_none _ _ _) (le_refl _) ran
  refine ⟨new, advance.staged done fun empty => ?_⟩
  subst empty
  exact (pure_ok_iff.1 ran).1.symm

theorem compileScripts_ok {sources : List Path} {s s' : State} {r : StageResult}
    (coherent : Coherent s) (ran : compileScripts (some sources) s = .ok r s') :
    ∃ new, Staged True Eq sources new r s s' := by
  obtain ⟨_, _, got, ran⟩ := bind_ok_iff.1 ran
  obtain ⟨rfl, rfl⟩ := get_ok_iff.1 got
  exact runAll_ok lawful_scriptCraft coherent ran

theorem compileStyles_ok {sources : Option (List Path)} {s s' : State} {r : StageResult}
    (coherent : Coherent s) (ran : compileStyles sources s = .ok r s') :
    ∃ new, Staged True Eq ((sources.getD (s.styles false)).filter (!Style.isPartial ·.name)) new r
      s s' := by
  obtain ⟨_, _, got, ran⟩ := bind_ok_iff.1 ran
  obtain ⟨rfl, rfl⟩ := get_ok_iff.1 got
  exact runAll_ok lawful_styleCraft coherent ran

theorem publishImages_ok {sources : Option (List Path)} {s s' : State} {r : StageResult}
    (coherent : Coherent s) (ran : publishImages sources s = .ok r s') :
    ∃ new, Staged False Eq (sources.getD s.images) new r s s' := by
  obtain ⟨_, _, got, ran⟩ := bind_ok_iff.1 ran
  obtain ⟨rfl, rfl⟩ := get_ok_iff.1 got
  exact runAll_ok lawful_imageCraft coherent ran

theorem quiet_publishVendor : Quiet publishVendor := by
  intro s r s' ran
  obtain ⟨_, _, got, ran⟩ := bind_ok_iff.1 ran
  obtain ⟨rfl, rfl⟩ := get_ok_iff.1 got
  split at ran
  · obtain ⟨-, rfl⟩ := pure_ok_iff.1 ran
    exact Alike.refl s
  · refine (Quiet.bind ?_ fun _ => ?_) s r s' ran
    · split
      · exact quiet_onFiles _ _
      · exact quiet_onFiles _ _
    · exact (quiet_logicalPathOf _).bind fun _ => (quiet_noteCompiled _).bind fun _ => quiet_pure _

/-- Side by side, a stylesheet is given names that its paths resolved to at any moment since the
start. -/
theorem runTogether_ok {schedule : Schedule} {a : Lane scriptCraft} {b : Lane styleCraft}
    {R : Journal → Journal → Prop} (grow : ∀ moment new j, R moment j → R moment (new ++ j))
    {s s' : State} {r : StageResult} (refl : ∀ new, R (new ++ s.journal) (new ++ s.journal))
    (coherent : Coherent s) (ready : b.IsReady CompiledAt R s.journal)
    (ran : runTogether schedule a b s = .ok r s') :
    ∃ new, Ran R new s s' ∧ Compiled new := by
  -- what one lane does leaves the other ready
  have onward {b : Lane styleCraft} {s s' : State} (new : Journal)
      (journal : s'.journal = new ++ s.journal)
      (refl : ∀ new, R (new ++ s.journal) (new ++ s.journal))
      (ready : b.IsReady CompiledAt R s.journal) :
      (∀ new, R (new ++ s'.journal) (new ++ s'.journal)) ∧
        b.IsReady CompiledAt R s'.journal := by
    rw [journal]
    exact ⟨fun later => by simpa using refl (later ++ new), ready.grow grow new⟩
  induction schedule generalizing a b s with
  | nil =>
    obtain ⟨scripts, s₁, first, ran⟩ := bind_ok_iff.1 ran
    obtain ⟨styles, s₂, second, ran⟩ := bind_ok_iff.1 ran
    obtain ⟨rfl, rfl⟩ := pure_ok_iff.1 ran
    obtain ⟨new, _, one, -, -⟩ := Lane.run_ok lawful_scriptCraft refl coherent
      (fun _ _ _ => ⟨_, trivial, refl []⟩) (le_refl _) first
    obtain ⟨refl, ready⟩ := onward new one.ran.journal refl ready
    obtain ⟨new', _, two, -, -⟩ :=
      Lane.run_ok lawful_styleCraft refl one.ran.coherent ready (le_refl _) second
    exact ⟨new' ++ new, one.ran.trans two.ran,
      (one.compiled trivial).append (two.compiled trivial)⟩
  | cons turn schedule ih =>
    cases turn with
    | script =>
      obtain ⟨next, s₁, stepped, ran⟩ := bind_ok_iff.1 ran
      obtain ⟨⟨new, one⟩, -, -⟩ := Lane.step_ok lawful_scriptCraft (refl []) coherent
        (fun _ _ _ => ⟨_, trivial, refl []⟩) stepped
      obtain ⟨refl, ready⟩ := onward new one.ran.journal refl ready
      obtain ⟨new', two, compiled⟩ := ih refl one.ran.coherent ready ran
      exact ⟨new' ++ new, one.ran.trans two, (one.compiled trivial).append compiled⟩
    | style =>
      obtain ⟨next, s₁, stepped, ran⟩ := bind_ok_iff.1 ran
      obtain ⟨⟨new, one⟩, ready', -⟩ :=
        Lane.step_ok lawful_styleCraft (refl []) coherent ready stepped
      obtain ⟨refl, -⟩ := onward new one.ran.journal refl ready
      obtain ⟨new', two, compiled⟩ := ih refl one.ran.coherent ready' ran
      exact ⟨new' ++ new, one.ran.trans two, (one.compiled trivial).append compiled⟩

end Folio.Build
