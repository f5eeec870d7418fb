import Folio.Proofs.Build.Asset
import Folio.Proofs.Build.Page
import Folio.Proofs.Template.Repeat

/-!
# Sources at fault

A stage goes on past a source that is at fault: that source adds its fault to the result and a line
to the log and leaves all else as it was (`Stage.run_fault`). Nothing that a stage does depends on
the log (`Stage.blind`), so a stage comes to the same without the sources that it finds at fault
(`Stage.confined`).
-/

namespace Folio.Build

variable {α β : Type}

/-! ## The log -/

/-- The state as it would be had nothing been logged. -/
def State.silent (s : State) : State :=
  { s with log := .empty s.log.verbose }

/-- An outcome without what was logged. -/
def silenced : EStateM.Result Abort State α → EStateM.Result Abort State α
  | .ok a s => .ok a s.silent
  | .error e s => .error e s.silent

/-- Steps that come to the same whatever was logged before. -/
def Blind (x : Build α) : Prop :=
  ∀ s t, s.silent = t.silent → silenced (x s) = silenced (x t)

theorem files_eq {s t : State} (alike : s.silent = t.silent) : s.files = t.files :=
  show s.silent.files = t.silent.files from congrArg State.files alike

theorem blind_pure (a : α) : Blind (pure a) := by
  intro s t alike
  exact congrArg (EStateM.Result.ok a) alike

theorem blind_throw (e : Abort) : Blind (throw e : Build α) := by
  intro s t alike
  exact congrArg (EStateM.Result.error e) alike

theorem Blind.bind {x : Build α} {f : α → Build β} (first : Blind x) (second : ∀ a, Blind (f a)) :
    Blind (x >>= f) := by
  intro s t alike
  have same := first s t alike
  change silenced (EStateM.bind x f s) = silenced (EStateM.bind x f t)
  unfold EStateM.bind
  cases ran : x s with
  | ok a s' =>
    cases ran' : x t with
    | ok b t' =>
      rw [ran, ran'] at same
      obtain ⟨rfl, alike'⟩ := (EStateM.Result.ok.injEq ..).mp same
      exact second a s' t' alike'
    | error e t' => rw [ran, ran'] at same; cases same
  | error e s' =>
    cases ran' : x t with
    | ok b t' => rw [ran, ran'] at same; cases same
    | error e' t' =>
      rw [ran, ran'] at same
      obtain ⟨rfl, alike'⟩ := (EStateM.Result.error.injEq ..).mp same
      exact congrArg (EStateM.Result.error e) alike'

/-- What goes on from the state goes on from the state without its log. -/
theorem blind_get_bind {f : State → Build α} (unseen : ∀ s, f s = f s.silent)
    (blind : ∀ s, Blind (f s)) : Blind (get >>= f) := by
  intro s t alike
  change silenced (f s s) = silenced (f t t)
  rw [unseen s, unseen t, ← alike]
  exact blind _ s t alike

theorem blind_modify {f : State → State} (unseen : ∀ s, (f s).silent = (f s.silent).silent) :
    Blind (modify f : Build Unit) := by
  intro s t alike
  change EStateM.Result.ok () (f s).silent = EStateM.Result.ok () (f t).silent
  rw [unseen s, unseen t, alike]

theorem blind_onFiles (p : Path) (x : FileTree.Op α) : Blind (onFiles p x) := by
  intro s t alike
  have files : s.files = t.files := files_eq alike
  have moved (u : FileTree) : ({ s with files := u } : State).silent = { t with files := u }.silent :=
    congrArg (fun s : State => { s with files := u }) alike
  unfold onFiles
  rw [files]
  cases x t.files with
  | ok a u => exact congrArg (EStateM.Result.ok a) (moved u)
  | error problem u =>
    cases problem with
    | unusablePath => exact congrArg (EStateM.Result.error _) (moved u)
    | _ => exact congrArg (EStateM.Result.error _) (moved u)

theorem blind_realPathOf (p : Path) : Blind (realPathOf p) := by
  intro s t alike
  have files : s.files = t.files := files_eq alike
  unfold realPathOf
  rw [files]
  cases realPath t.files p with
  | ok q => exact congrArg (EStateM.Result.ok q) alike
  | error e => exact congrArg (EStateM.Result.error e) alike

theorem blind_note (line : String) : Blind (note line) :=
  blind_modify fun _ => rfl

theorem verbose_compiled (l : Log) (path : String) : (l.compiled path).verbose = l.verbose := by
  unfold Log.compiled
  split <;> rfl

theorem blind_noteCompiled (path : String) : Blind (noteCompiled path) := by
  refine blind_modify fun s => ?_
  change { s with log := Log.empty (s.log.compiled path).verbose } =
    { s with log := Log.empty ((Log.empty s.log.verbose).compiled path).verbose }
  rw [verbose_compiled, verbose_compiled]
  rfl

theorem blind_belowOf (p directory : Path) : Blind (belowOf p directory) := by
  unfold belowOf
  cases p.below? directory with
  | none => exact blind_throw _
  | some segments => exact blind_pure segments

theorem blind_logicalPathOf (p : Path) : Blind (logicalPathOf p) := by
  refine blind_get_bind (fun _ => rfl) fun s => ?_
  cases s.layout.logicalPath p with
  | none => exact blind_throw _
  | some path => exact blind_pure path

theorem blind_failWith (r : StageResult) (f : Fault) : Blind (failWith r f) :=
  (blind_note _).bind fun _ => blind_pure _

theorem failWith_silent {r : StageResult} {f : Fault} {s s' : State}
    (ran : failWith .empty f s = .ok r s') :
    (∃ f, r = ⟨[], [], [f]⟩) ∧ s'.silent = s.silent := by
  obtain ⟨_, s₁, noted, ran⟩ := bind_ok_iff.1 ran
  obtain rfl := modify_ok_iff.1 noted
  obtain ⟨rfl, rfl⟩ := pure_ok_iff.1 ran
  exact ⟨⟨f, rfl⟩, rfl⟩

/-! ## Sources and the log -/

theorem blind_removeEarlier (earlier : Option String) (physical : String) :
    Blind (removeEarlier earlier physical) := by
  cases earlier with
  | none => exact blind_pure ()
  | some old =>
    unfold removeEarlier
    dsimp only
    split
    · exact blind_get_bind (fun _ => rfl) fun _ => blind_onFiles _ _
    · exact blind_pure ()

theorem blind_publish (path : String) (content : Bytes) : Blind (publish path content) := by
  refine blind_get_bind (fun _ => rfl) fun s => ?_
  refine (blind_modify fun _ => rfl).bind fun _ => ?_
  refine (blind_onFiles _ _).bind fun _ => ?_
  refine (blind_removeEarlier _ _).bind fun _ => ?_
  exact (blind_noteCompiled path).bind fun _ => blind_pure _

theorem blind_publishText (source output : Path) (text : String) (names : Names) :
    Blind (publishText source output text names) := by
  refine (blind_logicalPathOf output).bind fun path => ?_
  refine (blind_publish path _).bind fun file => ?_
  exact (blind_modify fun _ => rfl).bind fun _ => blind_pure _

theorem blind_conclude (r : StageResult) (o : Outcome) : Blind (Lane.conclude r o) := by
  cases o with
  | error f => exact blind_failWith r f
  | ok file => exact (blind_logicalPathOf file).bind fun _ => blind_pure _

/-- Crafts that come to the same whatever was logged, that only look at things at first, and that
leave all as it is where they find a fault. -/
structure Craft.Careful (craft : Craft) : Prop where
  prepare_blind : ∀ source, Blind (craft.prepare source)
  finish_blind : ∀ source prepared, Blind (craft.finish source prepared)
  prepare_same : ∀ source s out s', craft.prepare source s = .ok out s' → s' = s
  finish_same : ∀ source prepared s f s', craft.finish source prepared s = .ok (.error f) s' → s' = s

theorem readFile_same {p : Path} {content : Bytes} {s s' : State}
    (ran : readFile p s = .ok content s') : s' = s := by
  obtain ⟨read, after⟩ := onFiles_ok ran
  rw [after, ← (Template.content_ok_iff.1 read).2]

theorem publishText_ne_fault {source output : Path} {text : String} {names : Names} {s s' : State}
    {f : Fault} : publishText source output text names s ≠ .ok (.error f) s' := by
  intro ran
  obtain ⟨path, _, -, ran⟩ := bind_ok_iff.1 ran
  obtain ⟨file, _, -, ran⟩ := bind_ok_iff.1 ran
  obtain ⟨_, _, -, ran⟩ := bind_ok_iff.1 ran
  cases (pure_ok_iff.1 ran).1

theorem scriptCraft_careful : scriptCraft.Careful where
  prepare_blind source := (blind_onFiles _ _).bind fun _ => blind_pure _
  finish_blind source content := by
    refine blind_get_bind (fun _ => rfl) fun s => ?_
    cases Text.decodeSource content source.text with
    | error f => exact blind_pure _
    | ok text =>
      dsimp only
      cases Script.inject s.routes s.store.resolve text with
      | error d => exact blind_pure _
      | ok injected => exact (blind_belowOf _ _).bind fun _ => blind_publishText _ _ _ _
  prepare_same source s out s' ran := by
    obtain ⟨content, s₁, read, ran⟩ := bind_ok_iff.1 ran
    obtain ⟨-, rfl⟩ := pure_ok_iff.1 ran
    exact readFile_same read
  finish_same source content s f s' ran := by
    obtain ⟨_, _, got, ran⟩ := bind_ok_iff.1 ran
    obtain ⟨rfl, rfl⟩ := get_ok_iff.1 got
    cases decoded : Text.decodeSource content source.text with
    | error f =>
      rw [decoded] at ran
      exact (pure_ok_iff.1 ran).2.symm
    | ok text =>
      rw [decoded] at ran
      cases injection : Script.inject s.routes s.store.resolve text with
      | error d =>
        simp only [injection] at ran
        exact (pure_ok_iff.1 ran).2.symm
      | ok injected =>
        simp only [injection] at ran
        obtain ⟨segments, _, -, ran⟩ := bind_ok_iff.1 ran
        exact absurd ran publishText_ne_fault

theorem styleCraft_careful : styleCraft.Careful where
  prepare_blind source := by
    refine blind_get_bind (fun _ => rfl) fun s => ?_
    dsimp only
    split
    · refine (blind_throw _).bind fun _ => ?_
      split
      · exact blind_pure _
      · exact blind_pure _
    · split
      · exact blind_pure _
      · exact blind_pure _
  finish_blind source prepared := by
    refine blind_get_bind (fun _ => rfl) fun s => ?_
    exact (blind_belowOf _ _).bind fun _ => blind_publishText _ _ _ _
  prepare_same source s out s' ran := by
    obtain ⟨_, _, got, ran⟩ := bind_ok_iff.1 ran
    obtain ⟨rfl, rfl⟩ := get_ok_iff.1 got
    split at ran
    · obtain ⟨_, _, stop, -⟩ := bind_ok_iff.1 ran
      exact absurd stop throw_ne_ok
    · cases compilation :
        Style.compile s.files s.base s.layout.styles s.store.resolve s.production source with
      | error f =>
        simp only [compilation] at ran
        exact (pure_ok_iff.1 ran).2.symm
      | ok compiled =>
        simp only [compilation] at ran
        exact (pure_ok_iff.1 ran).2.symm
  finish_same source prepared s f s' ran := by
    obtain ⟨_, _, got, ran⟩ := bind_ok_iff.1 ran
    obtain ⟨rfl, rfl⟩ := get_ok_iff.1 got
    obtain ⟨segments, _, -, ran⟩ := bind_ok_iff.1 ran
    exact absurd ran publishText_ne_fault

/-! ## One source at a time -/

/-- Takes a source through both steps of a craft. -/
def Craft.add (craft : Craft) (r : StageResult) (source : Path) : Build StageResult := do
  match ← craft.prepare source with
  | .error f => failWith r f
  | .ok prepared => Lane.conclude r (← craft.finish source prepared)

/-- A lane with enough steps takes its sources through both steps one after another. -/
theorem Lane.run_eq_foldlM (craft : Craft) (sources : List Path) (r : StageResult) (count : Nat)
    (enough : 2 * sources.length ≤ count) :
    Lane.run count (⟨none, sources, r⟩ : Lane craft) = sources.foldlM craft.add r := by
  induction sources generalizing r count with
  | nil =>
    induction count with
    | zero => rfl
    | succ count ih =>
      have idle : Lane.step (⟨none, [], r⟩ : Lane craft) = pure ⟨none, [], r⟩ := rfl
      rw [run, idle, pure_bind, ih (Nat.zero_le _)]
  | cons source rest ih =>
    obtain ⟨count, rfl⟩ := Nat.exists_eq_add_of_le' (le_trans (by simp) enough : 2 ≤ count)
    have enough : 2 * rest.length ≤ count := by simpa [Nat.mul_add] using enough
    rw [List.foldlM_cons, Craft.add, bind_assoc]
    change (Lane.step ⟨none, source :: rest, r⟩ >>= run (count + 1)) = _
    unfold Lane.step
    rw [bind_assoc]
    refine bind_congr fun out => ?_
    cases out with
    | error f =>
      simp only [bind_assoc, pure_bind]
      exact bind_congr fun r => ih r (count + 1) (Nat.le_succ_of_le enough)
    | ok prepared =>
      simp only [pure_bind]
      change (Lane.step ⟨some (source, prepared), rest, r⟩ >>= run count) = _
      unfold Lane.step
      simp only [bind_assoc, pure_bind]
      exact bind_congr fun outcome => bind_congr fun r => ih r count enough

theorem runAll_eq_foldlM (craft : Craft) (sources : List Path) :
    runAll craft sources = sources.foldlM craft.add .empty :=
  Lane.run_eq_foldlM craft sources .empty _ (by simp [Lane.steps, Lane.start])

theorem compilePages_eq_foldlM (roots : List Path) (r : StageResult) :
    compilePages roots r = roots.foldlM (fun r root => addPage root r) r := by
  induction roots generalizing r with
  | nil => rfl
  | cons root rest ih => exact bind_congr fun r => ih r

namespace Craft.Careful

variable {craft : Craft}

theorem blind_add (careful : craft.Careful) (r : StageResult) (source : Path) :
    Blind (craft.add r source) := by
  refine (careful.prepare_blind source).bind fun out => ?_
  cases out with
  | error f => exact blind_failWith r f
  | ok prepared =>
    exact (careful.finish_blind source prepared).bind fun outcome => blind_conclude r outcome

theorem add_fault (careful : craft.Careful) {source : Path} {r : StageResult} {s s' : State}
    (ran : craft.add .empty source s = .ok r s') (fault : ¬ r.ok) :
    (∃ f, r = ⟨[], [], [f]⟩) ∧ s'.silent = s.silent := by
  obtain ⟨out, s₁, prepared, ran⟩ := bind_ok_iff.1 ran
  obtain rfl := careful.prepare_same _ _ _ _ prepared
  cases out with
  | error f => exact failWith_silent ran
  | ok p =>
    obtain ⟨outcome, s₂, finished, concluded⟩ := bind_ok_iff.1 ran
    cases outcome with
    | error f =>
      obtain rfl := careful.finish_same _ _ _ _ _ finished
      exact failWith_silent concluded
    | ok file =>
      obtain ⟨path, s₃, -, concluded⟩ := bind_ok_iff.1 concluded
      obtain ⟨rfl, -⟩ := pure_ok_iff.1 concluded
      exact absurd rfl fault

end Craft.Careful

/-! ## One page at a time -/

theorem blind_compilePage (root : Path) (more : Template.Variables) :
    Blind (compilePage root more) := by
  refine (blind_realPathOf root).bind fun place => ?_
  refine blind_get_bind (fun _ => rfl) fun s => ?_
  refine (blind_belowOf _ _).bind fun segments => ?_
  dsimp only
  split
  · exact blind_throw _
  · exact blind_pure _
  · exact blind_pure _
  · exact (blind_modify fun _ => rfl).bind fun _ => blind_pure _

theorem blind_addPage (r : StageResult) (root : Path) : Blind (addPage root r) := by
  refine (blind_compilePage root []).bind fun out => ?_
  cases out with
  | error f => exact blind_failWith r f
  | ok page =>
    refine blind_get_bind (fun _ => rfl) fun s => ?_
    refine (blind_belowOf _ _).bind fun segments => ?_
    refine (blind_onFiles _ _).bind fun _ => ?_
    refine (blind_logicalPathOf _).bind fun path => ?_
    exact (blind_noteCompiled path).bind fun _ => blind_pure _

theorem addPage_fault {root : Path} {r : StageResult} {s s' : State}
    (ran : addPage root .empty s = .ok r s') (fault : ¬ r.ok) :
    (∃ f, r = ⟨[], [], [f]⟩) ∧ s'.silent = s.silent := by
  obtain ⟨out, s₁, made, ran⟩ := bind_ok_iff.1 ran
  rcases (compilePage_ok made).2 with ⟨f, rfl, rfl⟩ | ⟨page, -, -, -, rfl, -⟩
  · exact failWith_silent ran
  · obtain ⟨_, s₂, -, ran⟩ := bind_ok_iff.1 ran
    obtain ⟨segments, s₃, -, ran⟩ := bind_ok_iff.1 ran
    obtain ⟨_, s₄, -, ran⟩ := bind_ok_iff.1 ran
    obtain ⟨path, s₅, -, ran⟩ := bind_ok_iff.1 ran
    obtain ⟨_, s₆, -, ran⟩ := bind_ok_iff.1 ran
    obtain ⟨rfl, -⟩ := pure_ok_iff.1 ran
    exact absurd rfl fault

/-! ## Results -/

theorem StageResult.append_empty (r : StageResult) : r.append .empty = r := by
  simp [append, empty]

theorem StageResult.append_assoc (a b c : StageResult) :
    (a.append b).append c = a.append (b.append c) := by
  simp [append]

/-- Ways to add a source to a result that look at nothing in it. -/
def Adds (add : StageResult → Path → Build StageResult) : Prop :=
  ∀ r source, add r source = r.append <$> add .empty source

theorem failWith_adds (r : StageResult) (f : Fault) : failWith r f = r.append <$> failWith .empty f := by
  simp [failWith, StageResult.addFailure, StageResult.append, StageResult.empty]

theorem Craft.adds (craft : Craft) : Adds craft.add := by
  intro r source
  unfold Craft.add
  rw [map_bind]
  refine bind_congr fun out => ?_
  cases out with
  | error f => exact failWith_adds r f
  | ok prepared =>
    rw [map_bind]
    refine bind_congr fun outcome => ?_
    cases outcome with
    | error f => exact failWith_adds r f
    | ok file => simp [Lane.conclude, StageResult.addOutput, StageResult.append, StageResult.empty]

theorem addPage_adds : Adds fun r root => addPage root r := by
  intro r root
  unfold addPage
  rw [map_bind]
  refine bind_congr fun out => ?_
  cases out with
  | error f => exact failWith_adds r f
  | ok page => simp [StageResult.addOutput, StageResult.append, StageResult.empty]

theorem Adds.foldlM {add : StageResult → Path → Build StageResult} (adds : Adds add)
    (sources : List Path) (r : StageResult) :
    sources.foldlM add r = r.append <$> sources.foldlM add .empty := by
  induction sources generalizing r with
  | nil => simp [StageResult.append_empty]
  | cons source rest ih =>
    rw [List.foldlM_cons, List.foldlM_cons, adds r, map_bind, bind_map_left]
    refine bind_congr fun gain => ?_
    have together : (r.append gain).append = fun more => r.append (gain.append more) :=
      funext fun more => StageResult.append_assoc r gain more
    rw [ih (r.append gain), ih gain, Functor.map_map, together]

/-! ## Stages -/

/-- The stages that go on past sources at fault. -/
inductive Stage
  | scripts
  | styles
  | pages
  deriving DecidableEq, Repr

namespace Stage

/-- One call of a stage with a list of sources. -/
def run : Stage → List Path → Build StageResult
  | scripts, sources => compileScripts (some sources)
  | styles, sources => compileStyles (some sources)
  | pages, roots => compilePages roots .empty

/-- The sources that a stage does not find at fault on its way through a list; where it stops, all
that are left. -/
def sound (stage : Stage) : List Path → State → List Path
  | [], _ => []
  | source :: rest, s =>
    match stage.run [source] s with
    | .ok r s' => if r.ok then source :: stage.sound rest s' else stage.sound rest s'
    | .error _ _ => source :: rest

theorem run_scripts (sources : List Path) :
    scripts.run sources = sources.foldlM scriptCraft.add .empty :=
  runAll_eq_foldlM scriptCraft sources

theorem run_styles (sources : List Path) : styles.run sources =
    (sources.filter (!Style.isPartial ·.name)).foldlM styleCraft.add .empty :=
  runAll_eq_foldlM styleCraft (sources.filter (!Style.isPartial ·.name))

theorem run_pages (roots : List Path) :
    pages.run roots = roots.foldlM (fun r root => addPage root r) .empty :=
  compilePages_eq_foldlM roots .empty

theorem run_nil (stage : Stage) : stage.run [] = pure .empty := by
  cases stage with
  | scripts => exact run_scripts []
  | styles => exact run_styles []
  | pages => rfl

/-- A stage over two lists is the stage over one and then over the other. -/
theorem run_append (stage : Stage) (before after : List Path) :
    stage.run (before ++ after) = do
      let r ← stage.run before
      let r' ← stage.run after
      return r.append r' := by
  have split {add : StageResult → Path → Build StageResult} (adds : Adds add)
      (before after : List Path) : (before ++ after).foldlM add .empty = do
        let r ← before.foldlM add .empty
        let r' ← after.foldlM add .empty
        return r.append r' := by
    rw [List.foldlM_append]
    exact bind_congr fun r => (adds.foldlM after r).trans (bind_pure_comp ..).symm
  cases stage with
  | scripts =>
    simp only [run_scripts]
    exact split scriptCraft.adds before after
  | styles =>
    simp only [run_styles, List.filter_append]
    exact split styleCraft.adds _ _
  | pages =>
    simp only [run_pages]
    exact split addPage_adds before after

theorem foldlM_singleton (add : StageResult → Path → Build StageResult) (source : Path)
    (r : StageResult) : [source].foldlM add r = add r source := by
  simp

theorem blind_foldlM {add : StageResult → Path → Build StageResult}
    (blind : ∀ r source, Blind (add r source)) (sources : List Path) (r : StageResult) :
    Blind (sources.foldlM add r) := by
  induction sources generalizing r with
  | nil => exact blind_pure r
  | cons source rest ih => exact (blind r source).bind fun r => ih r

theorem blind (stage : Stage) (sources : List Path) : Blind (stage.run sources) := by
  cases stage with
  | scripts =>
    rw [run_scripts]
    exact blind_foldlM scriptCraft_careful.blind_add sources _
  | styles =>
    rw [run_styles]
    exact blind_foldlM styleCraft_careful.blind_add _ _
  | pages =>
    rw [run_pages]
    exact blind_foldlM blind_addPage sources _

/-- A source at fault adds its fault and a line of the log. -/
theorem run_fault (stage : Stage) {source : Path} {r : StageResult} {s s' : State}
    (ran : stage.run [source] s = .ok r s') (fault : ¬ r.ok) :
    (∃ f, r = ⟨[], [], [f]⟩) ∧ s'.silent = s.silent := by
  cases stage with
  | scripts =>
    rw [run_scripts, foldlM_singleton] at ran
    exact scriptCraft_careful.add_fault ran fault
  | styles =>
    rw [run_styles] at ran
    cases partials : Style.isPartial source.name with
    | true =>
      rw [List.filter_cons_of_neg (by simp [partials])] at ran
      obtain ⟨rfl, -⟩ := pure_ok_iff.1 ran
      exact absurd rfl fault
    | false =>
      rw [List.filter_cons_of_pos (by simp [partials]), List.filter_nil, foldlM_singleton] at ran
      exact styleCraft_careful.add_fault ran fault
  | pages =>
    rw [run_pages, foldlM_singleton] at ran
    exact addPage_fault ran fault

theorem run_cons (stage : Stage) (source : Path) (rest : List Path) :
    stage.run (source :: rest) = do
      let r ← stage.run [source]
      let r' ← stage.run rest
      return r.append r' :=
  stage.run_append [source] rest

/-- The outputs of a stage and the state that it leaves, faults and log apart. -/
def outputs : EStateM.Result Abort State StageResult →
    EStateM.Result Abort State (List String × List Path)
  | .ok r s => .ok (r.outputs, r.outputFiles) s.silent
  | .error e s => .error e s.silent

theorem outputs_eq {x y : EStateM.Result Abort State StageResult} (same : silenced x = silenced y) :
    outputs x = outputs y := by
  cases x <;> cases y <;> simp_all [silenced, outputs]

/-- Results that come before those of two runs with the same outputs leave them so. -/
theorem outputs_append {x y : Build StageResult} {s t : State} {a b : StageResult}
    (same : outputs (x s) = outputs (y t)) (paths : a.outputs = b.outputs)
    (files : a.outputFiles = b.outputFiles) :
    outputs ((a.append <$> x) s) = outputs ((b.append <$> y) t) := by
  change outputs (EStateM.map a.append x s) = outputs (EStateM.map b.append y t)
  unfold EStateM.map
  revert same
  cases x s <;> cases y t <;> simp_all [outputs, StageResult.append]

theorem run_cons_ok (stage : Stage) {source : Path} {r : StageResult} {s s' : State}
    (ran : stage.run [source] s = .ok r s') (rest : List Path) :
    stage.run (source :: rest) s = (r.append <$> stage.run rest) s' := by
  rw [run_cons, ← bind_pure_comp]
  change EStateM.bind _ _ s = _
  rw [EStateM.bind, ran]

/-- Without the sources that it finds at fault a stage writes the same and stops where it did. -/
theorem outputs_run_sound (stage : Stage) (sources : List Path) {s t : State}
    (alike : s.silent = t.silent) :
    outputs (stage.run (stage.sound sources s) t) = outputs (stage.run sources s) := by
  induction sources generalizing s t with
  | nil => exact outputs_eq (stage.blind [] t s alike.symm)
  | cons source rest ih =>
    have blind := stage.blind [source] s t alike
    unfold sound
    cases ran : stage.run [source] s with
    | error e s' => exact outputs_eq (stage.blind (source :: rest) t s alike.symm)
    | ok r s' =>
      dsimp only
      rw [stage.run_cons_ok ran]
      split
      · rw [ran] at blind
        cases ran' : stage.run [source] t with
        | error e t' => rw [ran'] at blind; cases blind
        | ok r' t' =>
          rw [ran'] at blind
          obtain ⟨rfl, alike'⟩ := (EStateM.Result.ok.injEq ..).mp blind
          rw [stage.run_cons_ok ran']
          exact outputs_append (ih alike') rfl rfl
      · next fault =>
        obtain ⟨⟨f, rfl⟩, silent⟩ := stage.run_fault ran fault
        have same := ih (silent.trans alike)
        rw [← id_map (stage.run (stage.sound rest s'))]
        exact @outputs_append _ _ _ _ .empty _ same rfl rfl

/-- A source is dropped for each fault. -/
theorem length_sound (stage : Stage) {sources : List Path} {r : StageResult} {s s' : State}
    (ran : stage.run sources s = .ok r s') :
    (stage.sound sources s).length + r.failures.length = sources.length := by
  induction sources generalizing s r with
  | nil =>
    rw [run_nil] at ran
    obtain ⟨rfl, -⟩ := pure_ok_iff.1 ran
    rfl
  | cons source rest ih =>
    rw [run_cons] at ran
    obtain ⟨one, s₁, first, ran⟩ := bind_ok_iff.1 ran
    obtain ⟨more, s₂, later, ran⟩ := bind_ok_iff.1 ran
    obtain ⟨rfl, rfl⟩ := pure_ok_iff.1 ran
    have count := ih later
    unfold sound
    rw [first]
    dsimp only
    split
    · next ok =>
      have none : one.failures = [] := List.isEmpty_iff.1 ok
      simp only [StageResult.append, none, List.nil_append, List.length_cons]
      omega
    · next fault =>
      obtain ⟨⟨f, rfl⟩, -⟩ := stage.run_fault first fault
      simp only [StageResult.append, List.length_append, List.length_cons, List.length_nil]
      omega

theorem sound_sublist (stage : Stage) (sources : List Path) (s : State) :
    (stage.sound sources s).Sublist sources := by
  induction sources generalizing s with
  | nil => exact List.Sublist.refl _
  | cons source rest ih =>
    unfold sound
    split
    · split
      · exact (ih _).cons_cons source
      · exact (ih _).cons source
    · exact List.Sublist.refl _

/-- The sources that are left have no faults, not even without the others. -/
theorem run_sound_ok (stage : Stage) {sources : List Path} {r : StageResult} {s t t' : State}
    (alike : s.silent = t.silent) (ran : stage.run (stage.sound sources s) t = .ok r t') :
    r.ok = true := by
  induction sources generalizing s t r with
  | nil =>
    unfold sound at ran
    rw [run_nil] at ran
    obtain ⟨rfl, -⟩ := pure_ok_iff.1 ran
    rfl
  | cons source rest ih =>
    have blind := stage.blind [source] s t alike
    unfold sound at ran
    cases first : stage.run [source] s with
    | error e s' =>
      simp only [first] at ran blind
      rw [run_cons] at ran
      obtain ⟨one, t₁, first', -⟩ := bind_ok_iff.1 ran
      rw [first'] at blind
      cases blind
    | ok one s' =>
      simp only [first] at ran blind
      split at ran
      · next ok =>
        rw [run_cons] at ran
        obtain ⟨one', t₁, first', ran⟩ := bind_ok_iff.1 ran
        obtain ⟨more, t₂, later, ran⟩ := bind_ok_iff.1 ran
        obtain ⟨rfl, rfl⟩ := pure_ok_iff.1 ran
        rw [first'] at blind
        obtain ⟨rfl, alike'⟩ := (EStateM.Result.ok.injEq ..).mp blind
        have none : one.failures = [] := List.isEmpty_iff.1 ok
        have none' : more.failures = [] := List.isEmpty_iff.1 (ih alike' later)
        simp [StageResult.ok, StageResult.append, none, none']
      · next fault => exact ih ((stage.run_fault first fault).2.trans alike) ran

/-- What the faults of a call of a stage with some sources leave alone. -/
structure Confined (stage : Stage) (sources : List Path) (s : State) : Prop where
  /-- A source that turns out to be at fault changes nothing and writes nothing. -/
  traceless : ∀ before source after r s₁ r' s₂, sources = before ++ source :: after →
    stage.run before s = .ok r s₁ → stage.run [source] s₁ = .ok r' s₂ → ¬ r'.ok →
      (∃ f, r' = ⟨[], [], [f]⟩) ∧ s₂.silent = s₁.silent
  /-- The call goes through its sources in order. -/
  stepwise : ∀ before after, sources = before ++ after → stage.run sources = do
    let r ← stage.run before
    let r' ← stage.run after
    return r.append r'
  /-- As many sources are dropped as there are faults. -/
  dropped : (stage.sound sources s).Sublist sources ∧ ∀ r s', stage.run sources s = .ok r s' →
    (stage.sound sources s).length + r.failures.length = sources.length
  /-- Without them there is no fault, and all else is the same. -/
  same : (∀ r s', stage.run (stage.sound sources s) s = .ok r s' → r.ok) ∧
    outputs (stage.run (stage.sound sources s) s) = outputs (stage.run sources s)

end Stage

end Folio.Build
