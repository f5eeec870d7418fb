import Folio.Proofs.Template.Repeat

/-!
# Templates that cannot crash

A rendering crashes where an asset or a template is asked for by something that is no text. The
expressions of a fit template ask for them by what is a text in any case: one that is written out,
or what a filter makes. If all templates of a site can be read and are fit, no page of it crashes
(`render_ne_crash`).
-/

namespace Folio.Template

open Text

/-! ## Fit templates -/

/-- Whether an expression has a text for its value, if it has one. -/
def Expr.isText : Expr → Bool
  | .text _ | .filtered _ _ _ _ => true
  | _ => false

/-- Whether some arguments are no single one, or a text. -/
def Arguments.isFit : Arguments → Bool
  | .more e .done => e.isText
  | _ => true

mutual

/-- Whether the calls inside an expression are given texts. -/
def Expr.isFit : Expr → Bool
  | .text _ | .integer _ | .real _ | .truth _ | .none | .name _ => true
  | .member e _ | .negative e | .positive e => e.isFit
  | .item a b | .quotient a b => a.isFit && b.isFit
  | .call f arguments => f.isFit && arguments.areFit && arguments.isFit
  | .filtered _ _ e arguments => e.isFit && arguments.areFit

def Arguments.areFit : Arguments → Bool
  | .done => true
  | .more e rest => e.isFit && rest.areFit

end

/-- Whether a body asks for assets and templates by texts. -/
def Body.isFit : Body → Bool
  | .done => true
  | .text _ next => next.isFit
  | .print _ e next => e.isFit && next.isFit
  | .conditional _ test yes no next => test.isFit && yes.isFit && no.isFit && next.isFit
  | .insert _ e next | .inherit _ _ e next => e.isFit && e.isText && next.isFit
  | .block _ _ body next => body.isFit && next.isFit

/-- Whether the text of a template can be read without a crash and is fit. -/
def isFit (s : String) : Bool :=
  match parse s with
  | .ok body => body.isFit
  | .error (.crash _) => false
  | .error _ => true

/-- Whether all templates of a site that are text are fit. -/
def Site.IsFit (site : Site) : Prop :=
  ∀ name p content s, site.templateFile? name = some p →
    site.files.target? p = some (.file content) → decode content = .ok s → isFit s = true

/-! ## Calm renderings -/

variable {α β : Type} {site : Site}

/-- Renderings that do not crash, with values that fit. -/
structure Calm (Fits : α → Prop) (x : Render α) : Prop where
  fits : ∀ trace a trace', x trace = .ok (a, trace') → Fits a
  calm : ∀ trace c, x trace ≠ .error (.crash c)

namespace Calm

variable {Fits Fits' : α → Prop} {x : Render α}

theorem mono (calm : Calm Fits x) (weaker : ∀ a, Fits a → Fits' a) : Calm Fits' x :=
  ⟨fun trace a trace' ran => weaker a (calm.fits trace a trace' ran), calm.calm⟩

theorem pure {a : α} (fits : Fits a) : Calm Fits (pure a) where
  fits := by
    rintro trace _ _ ⟨⟩
    exact fits
  calm := by
    rintro trace c ⟨⟩

theorem throw {f : Failure} (mild : ∀ c, f ≠ .crash c) : Calm Fits (throw f : Render α) where
  fits := by rintro trace _ _ ⟨⟩
  calm := by
    rintro trace c ⟨⟩
    exact mild c rfl

theorem fail (c : Cause) : Calm Fits (fail c) :=
  throw fun _ same => nomatch same

theorem ofExcept {e : Except Cause α} (fits : ∀ a, e = .ok a → Fits a) : Calm Fits (ofExcept e) := by
  cases e with
  | error c => exact fail c
  | ok a => exact pure (fits a rfl)

theorem bind {FitsAfter : β → Prop} {f : α → Render β} (first : Calm Fits x)
    (second : ∀ a, Fits a → Calm FitsAfter (f a)) : Calm FitsAfter (x >>= f) where
  fits := by
    intro trace b trace'' ran
    change (x trace >>= fun r => f r.1 r.2) = _ at ran
    cases outcome : x trace with
    | error failure => rw [outcome] at ran; cases ran
    | ok r =>
      rw [outcome] at ran
      exact (second r.1 (first.fits _ _ _ outcome)).fits _ _ _ ran
  calm := by
    intro trace c ran
    change (x trace >>= fun r => f r.1 r.2) = _ at ran
    cases outcome : x trace with
    | error failure =>
      rw [outcome] at ran
      cases ran
      exact first.calm _ _ outcome
    | ok r =>
      rw [outcome] at ran
      exact (second r.1 (first.fits _ _ _ outcome)).calm _ _ ran

theorem modify (f : Trace → Trace) : Calm (fun _ => True) (modify f : Render Unit) where
  fits _ _ _ _ := trivial
  calm := by rintro trace c ⟨⟩

theorem located (file : String) (line : Nat) (inner : Calm Fits x) :
    Calm Fits (located file line x) where
  fits := by
    intro trace a trace' ran
    unfold Template.located at ran
    split at ran
    · next outcome =>
      cases ran
      exact inner.fits _ _ _ outcome
    · cases ran
  calm := by
    intro trace c ran
    unfold Template.located at ran
    split at ran
    · cases ran
    · next f outcome =>
      cases f with
      | crash d => exact inner.calm _ d outcome
      | cause d => cases ran
      | fault d => cases ran

end Calm

/-! ## Functions -/

/-- Whether a value is a text. -/
def Value.IsText (v : Value) : Prop :=
  ∃ s, v = .text s

theorem calm_assetPath (name : String) (isMarkup : Bool) :
    Calm (fun _ => True) (assetPath site name isMarkup) := by
  refine (Calm.modify _).bind fun _ _ => ?_
  split
  · exact .pure trivial
  · split <;> exact .pure trivial

theorem calm_inlined (name : String) : Calm (fun _ => True) (inlined site name) := by
  refine (Calm.modify _).bind fun _ _ => ?_
  dsimp only
  split
  · split
    · exact .pure trivial
    · exact .fail _
  · exact .fail _
  · exact .fail _

theorem calm_ofAsset (f : Function) (name : String) (isMarkup : Bool) :
    Calm (fun _ => True) (ofAsset site f name isMarkup) := by
  cases f with
  | inlineAsset => exact calm_inlined name
  | squish => exact calm_assetPath name isMarkup
  | assetPath => exact calm_assetPath name isMarkup

/-- A single argument is a text. -/
def AreFit (arguments : List Value) : Prop :=
  ∀ v, arguments = [v] → v.IsText

theorem calm_applyFunction {f : Function} {arguments : List Value} (fit : AreFit arguments) :
    Calm (fun _ => True) (applyFunction site f arguments) := by
  unfold applyFunction
  split
  · exact .fail _
  · next v =>
    obtain ⟨s, rfl⟩ := fit v rfl
    cases f with
    | squish => exact (Calm.ofExcept fun _ _ => trivial).bind fun _ _ => .pure trivial
    | assetPath => exact calm_ofAsset .assetPath s false
    | inlineAsset => exact calm_ofAsset .inlineAsset s false
  · exact .fail _

/-- What a filter makes is a text, whatever it is given. -/
theorem Scope.calm_filter (scope : Scope) (filter : String) (v : Value) (arguments : List Value) :
    Calm Value.IsText (scope.filter filter v arguments) := by
  unfold Scope.filter
  split
  · cases arguments with
    | nil => exact (Calm.ofExcept fun _ _ => trivial).bind fun s _ => .pure ⟨_, rfl⟩
    | cons => exact .fail _
  · exact .fail _

/-! ## Expressions -/

variable {scope : Scope}

/-- Whether the blocks that a scope renders do not crash. -/
def Scope.BlocksCalm (scope : Scope) : Prop :=
  ∀ name distance, Calm (fun _ => True) (scope.renderBlock name distance)

theorem Scope.calm_call (blocks : scope.BlocksCalm) {f : Value} {arguments : List Value}
    (fit : AreFit arguments) : Calm (fun _ => True) (scope.call f arguments) := by
  unfold Scope.call
  split
  · exact calm_applyFunction fit
  · exact .ofExcept fun _ _ => trivial
  · split
    · exact (blocks _ _).bind fun _ _ => .pure trivial
    · exact .pure trivial
  · exact .pure trivial
  · exact .fail _
  · exact .fail _

mutual

theorem Expr.calm_eval (blocks : scope.BlocksCalm) : ∀ e : Expr, e.isFit = true →
    Calm (fun v => e.isText = true → v.IsText) (e.eval scope)
  | .text s, _ => .pure fun _ => ⟨s, rfl⟩
  | .integer _, _ | .real _, _ | .truth _, _ | .none, _ | .name _, _ => .pure nofun
  | .member e _, fit | .negative e, fit | .positive e, fit =>
    (e.calm_eval blocks fit).bind fun _ _ => .ofExcept nofun
  | .item a b, fit | .quotient a b, fit => by
    obtain ⟨one, two⟩ := Bool.and_eq_true_iff.1 fit
    exact (a.calm_eval blocks one).bind fun _ _ =>
      (b.calm_eval blocks two).bind fun _ _ => .ofExcept nofun
  | .call f arguments, fit => by
    obtain ⟨parts, single⟩ := Bool.and_eq_true_iff.1 fit
    obtain ⟨callee, inside⟩ := Bool.and_eq_true_iff.1 parts
    refine (f.calm_eval blocks callee).bind fun v _ =>
      (arguments.calm_eval blocks inside).bind fun vs given => ?_
    exact (Scope.calm_call blocks (given.2 single)).mono fun _ _ => nofun
  | .filtered _ filter e arguments, fit => by
    obtain ⟨operand, inside⟩ := Bool.and_eq_true_iff.1 fit
    refine (e.calm_eval blocks operand).bind fun v _ =>
      (arguments.calm_eval blocks inside).bind fun vs _ => ?_
    exact (scope.calm_filter filter v vs).mono fun _ text _ => text

theorem Arguments.calm_eval (blocks : scope.BlocksCalm) : ∀ arguments : Arguments,
    arguments.areFit = true →
      Calm (fun vs => (vs = [] → arguments = .done) ∧ (arguments.isFit = true → AreFit vs))
        (arguments.eval scope)
  | .done, _ => .pure ⟨fun _ => rfl, fun _ _ => nofun⟩
  | .more e rest, fit => by
    obtain ⟨first, others⟩ := Bool.and_eq_true_iff.1 fit
    refine (e.calm_eval blocks first).bind fun v text =>
      (rest.calm_eval blocks others).bind fun vs given => .pure ⟨nofun, fun single other same => ?_⟩
    obtain ⟨rfl, rfl⟩ := List.cons.inj same
    obtain rfl := given.1 rfl
    exact text single

end

/-! ## Loading -/

/-- Whether the bodies of some blocks are fit. -/
def Blocks.AreFit (blocks : Blocks) : Prop :=
  ∀ b ∈ blocks, b.2.body.isFit = true

theorem Body.isFit_blocks {body : Body} (fit : body.isFit = true) :
    ∀ b ∈ body.blocks, b.2.2.isFit = true := by
  induction body with
  | done => exact nofun
  | text s next ih => exact ih fit
  | print line e next ih => exact ih (Bool.and_eq_true_iff.1 fit).2
  | insert line e next ih => exact ih (Bool.and_eq_true_iff.1 fit).2
  | inherit line before e next ih => exact ih (Bool.and_eq_true_iff.1 fit).2
  | conditional line test yes no next yesIh noIh ih =>
    simp only [Body.isFit, Bool.and_eq_true] at fit
    intro b member
    rcases List.mem_append.1 member with member | member
    · rcases List.mem_append.1 member with member | member
      · exact yesIh fit.1.1.2 b member
      · exact noIh fit.1.2 b member
    · exact ih fit.2 b member
  | block line name body next bodyIh ih =>
    obtain ⟨inner, later⟩ := Bool.and_eq_true_iff.1 fit
    intro b member
    rcases List.mem_append.1 member with member | member
    · rcases List.mem_cons.1 member with rfl | member
      · exact inner
      · exact bodyIh inner b member
    · exact ih later b member

theorem Source.areFit_blocks {s : Source} (fit : s.body.isFit = true) : s.blocks.AreFit := by
  intro b member
  obtain ⟨inside, listed, rfl⟩ := List.mem_map.1 member
  exact Body.isFit_blocks fit inside listed

theorem areFit_append {a b : Blocks} (one : a.AreFit) (two : b.AreFit) : Blocks.AreFit (a ++ b) := by
  intro block member
  exact (List.mem_append.1 member).elim (one block) (two block)

theorem calm_load (fit : site.IsFit) (name : String) :
    Calm (fun s => s.body.isFit = true) (load site name) := by
  unfold load
  cases found : site.templateFile? name with
  | none => exact .fail _
  | some p =>
    dsimp only
    cases read : (FileTree.Op.content p).run site.files with
    | error problem t => exact .fail _
    | ok content t =>
      dsimp only
      cases text : decode content with
      | error f => exact .fail _
      | ok s =>
        have known := fit name p content s found (content_ok_iff.1 read).1 text
        unfold Template.isFit at known
        refine (Calm.modify _).bind fun _ _ => ?_
        cases parsed : parse s with
        | ok body =>
          rw [parsed] at known
          exact .pure known
        | error d =>
          rw [parsed] at known
          refine .throw fun c same => ?_
          cases d with
          | crash c => cases known
          | _ => cases same

theorem calm_loadNamed (fit : site.IsFit) {v : Value} (text : v.IsText) :
    Calm (fun s => s.body.isFit = true) (loadNamed site v) := by
  obtain ⟨s, rfl⟩ := text
  exact calm_load fit s

theorem calm_loadIncluded (fit : site.IsFit) {v : Value} (text : v.IsText) :
    Calm (fun s => s.body.isFit = true) (loadIncluded site v) := by
  obtain ⟨s, rfl⟩ := text
  exact calm_load fit s

/-! ## Bodies -/

/-- Whether what renders the tasks inside a task does not crash on those that are fit. -/
def DeeperCalm (deeper : Option (Task → Render String)) : Prop :=
  ∀ render, deeper = some render → ∀ task, task.source.body.isFit = true → task.blocks.AreFit →
    Calm (fun _ => True) (render task)

variable {deeper : Option (Task → Render String)}

theorem calm_renderBlock (inside : DeeperCalm deeper) (task : Task) {blocks : Blocks}
    (fit : blocks.AreFit) (name : String) (distance : Nat) :
    Calm (fun _ => True) (renderBlock deeper task blocks name distance) := by
  cases deeper with
  | none => exact .fail _
  | some render =>
    unfold renderBlock Task.ofBlock
    cases found : blockAt? blocks name distance with
    | none => exact .pure trivial
    | some source =>
      refine inside render rfl _ ?_ fit
      obtain ⟨b, listed, rfl⟩ := Option.map_eq_some_iff.1 found
      exact fit b (List.mem_filter.1 (List.mem_of_getElem? listed)).1

/-- What the parts of a fit body come to: blocks and a template that are fit. -/
def Progress.IsFit (p : Progress) : Prop :=
  p.blocks.AreFit ∧ ∀ source, p.extended = some source → source.body.isFit = true

theorem Progress.IsFit.start {blocks : Blocks} (fit : blocks.AreFit) :
    Progress.IsFit ⟨"", blocks, none⟩ :=
  ⟨fit, fun _ same => nomatch same⟩

theorem calm_renderParts (fit : site.IsFit) (inside : DeeperCalm deeper) (bindings : Variables)
    (task : Task) (body : Body) (p : Progress) (whole : body.isFit = true) (start : p.IsFit) :
    Calm Progress.IsFit (renderParts site bindings deeper task body p) := by
  have eval (e : Expr) (known : e.isFit = true) (p : Progress) (start : p.IsFit) :
      Calm (fun v => e.isText = true → v.IsText)
        (e.eval (task.scope site bindings deeper p.blocks)) :=
    e.calm_eval (fun name distance => calm_renderBlock inside task start.1 name distance) known
  induction body generalizing p with
  | done => exact .pure start
  | text s next ih =>
    simp only [renderParts]
    split
    · exact ih _ whole start
    · exact ih _ whole start
  | print line e next ih =>
    obtain ⟨known, later⟩ := Bool.and_eq_true_iff.1 whole
    simp only [renderParts]
    split
    · exact ih _ later start
    · refine (Calm.located _ _ ?_ : Calm (fun _ => True) _).bind fun s _ => ih _ later start
      exact (eval e known p start).bind fun v _ => .ofExcept fun _ _ => trivial
  | conditional line test yes no next yesIh noIh ih =>
    simp only [Body.isFit, Bool.and_eq_true] at whole
    obtain ⟨⟨⟨known, one⟩, two⟩, later⟩ := whole
    refine (Calm.located _ _ (eval test known p start)).bind fun v _ => ?_
    dsimp only
    split
    · exact (yesIh p one start).bind fun p start => ih p later start
    · exact (noIh p two start).bind fun p start => ih p later start
  | insert line template next ih =>
    simp only [Body.isFit, Bool.and_eq_true] at whole
    obtain ⟨⟨known, named⟩, later⟩ := whole
    refine (Calm.located _ _ ?_ : Calm (fun _ => True) _).bind fun s _ => ih _ later start
    refine (eval template known p start).bind fun v text => ?_
    cases deeper with
    | none => exact .fail _
    | some render =>
      refine (calm_loadIncluded fit (text named)).bind fun source known => ?_
      exact inside render rfl _ known (Source.areFit_blocks known)
  | inherit line before template next ih =>
    simp only [Body.isFit, Bool.and_eq_true] at whole
    obtain ⟨⟨known, named⟩, later⟩ := whole
    have extend : Calm Progress.IsFit (located task.source.file line do
        let v ← template.eval (task.scope site bindings deeper p.blocks)
        if deeper.isNone then fail .endlessNesting
        else
          let source ← loadNamed site v
          pure { p with blocks := p.blocks ++ source.blocks, extended := some source }) := by
      refine Calm.located _ _ ((eval template known p start).bind fun v text => ?_)
      split
      · exact .fail _
      · refine (calm_loadNamed fit (text named)).bind fun source known => .pure ⟨?_, ?_⟩
        · exact areFit_append start.1 (Source.areFit_blocks known)
        · intro other same
          exact Option.some.inj same ▸ known
    simp only [renderParts]
    split
    · exact (Calm.located _ _ (.fail _)).bind fun _ (never : False) => never.elim
    · exact extend.bind fun p start => ih p later start
  | block line name body next bodyIh ih =>
    obtain ⟨-, later⟩ := Bool.and_eq_true_iff.1 whole
    simp only [renderParts]
    split
    · exact ih _ later start
    · exact (Calm.located _ _ (calm_renderBlock inside task start.1 name 0)).bind fun s _ =>
        ih _ later start

theorem calm_renderTask (fit : site.IsFit) (bindings : Variables) (depth : Nat) (task : Task)
    (whole : task.source.body.isFit = true) (blocks : task.blocks.AreFit) :
    Calm (fun _ => True) (renderTask site bindings depth task) := by
  induction depth generalizing task with
  | zero =>
    have inside : DeeperCalm none := nofun
    exact (calm_renderParts fit inside bindings task _ _ whole
      (.start blocks)).bind fun p _ =>
      .pure trivial
  | succ depth ih =>
    have inside : DeeperCalm (some (renderTask site bindings depth)) := by
      rintro _ ⟨⟩ task whole blocks
      exact ih task whole blocks
    refine (calm_renderParts fit inside bindings task _ _ whole
      (.start blocks)).bind fun p reached => ?_
    cases extended : p.extended with
    | none => exact .pure trivial
    | some source =>
      exact (ih _ (reached.2 source extended) reached.1).bind fun _ _ => .pure trivial

/-- No page of a site crashes if all its templates are fit. -/
theorem render_ne_crash (fit : site.IsFit) (bindings : Variables) (name file : String) (c : Crash) :
    render site bindings name file ≠ .error (.crash c) := by
  have page : Calm (fun _ => True) (located file 0 do
      renderTask site bindings maxNesting (.ofPage (← load site name))) :=
    Calm.located _ _ ((calm_load fit name).bind fun source known =>
      calm_renderTask fit bindings maxNesting _ known (Source.areFit_blocks known))
  intro ran
  unfold render at ran
  dsimp only at ran
  split at ran
  · cases ran
  · next f unplaced outcome =>
    cases ran
    exact page.calm _ _ outcome
  · cases ran

end Folio.Template
