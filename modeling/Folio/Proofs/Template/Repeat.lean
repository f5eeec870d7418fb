import Folio.Template.Render
import Folio.Proofs.FileTree.Write

/-!
# What a page depends on

A rendering that succeeds with some files and fingerprints succeeds with others to the same outcome
and the same trace, if the two agree on what the trace tells of (`render_repeats`): the templates
that were loaded, the paths that were looked up with their published files, and the names of
templates that were asked for in vain. So nothing else has a part in the page.
-/

namespace Folio.Template

open Text

/-- Reading a file gives what is at its path once links are followed. -/
theorem content_ok_iff {p : Path} {t t' : FileTree} {content : Bytes} :
    FileTree.Op.content p t = .ok content t' ↔ t.target? p = some (.file content) ∧ t = t' := by
  unfold FileTree.Op.content FileTree.target?
  constructor
  · intro ran
    obtain ⟨q, t₁, found, ran⟩ := FileTree.Op.bind_ok_iff.1 ran
    obtain ⟨located, rfl⟩ := FileTree.Op.find_ok_iff.1 found
    obtain ⟨_, _, got, ran⟩ := FileTree.Op.bind_ok_iff.1 ran
    obtain ⟨rfl, rfl⟩ := FileTree.Op.get_ok_iff.1 got
    rw [located]
    dsimp only
    cases there : t.get? q with
    | none =>
      rw [there] at ran
      exact absurd ran FileTree.Op.throw_ne_ok
    | some e =>
      rw [there] at ran
      cases e with
      | file held =>
        obtain ⟨rfl, rfl⟩ := FileTree.Op.pure_ok_iff.1 ran
        exact ⟨rfl, rfl⟩
      | directory => exact absurd ran FileTree.Op.throw_ne_ok
      | link target => exact absurd ran FileTree.Op.throw_ne_ok
  · rintro ⟨named, rfl⟩
    cases located : t.locateTarget p with
    | error problem =>
      rw [located] at named
      cases named
    | ok q =>
      rw [located] at named
      refine FileTree.Op.bind_ok_iff.2 ⟨q, t, FileTree.Op.find_ok_iff.2 ⟨located, rfl⟩, ?_⟩
      refine FileTree.Op.bind_ok_iff.2 ⟨t, t, rfl, ?_⟩
      dsimp only at named
      rw [named]
      rfl

/-! ## Traces that stand -/

/-- A site with other files and fingerprints. -/
def Site.moved (site : Site) (files : FileTree) (published : String → Option String) : Site :=
  { site with files, published }

/-- The published file of a path that is looked up. -/
def Site.publishedFile (site : Site) (path : String) : Path :=
  site.outputFile ((site.published path).getD path)

/-- Whether other files and fingerprints agree with those of a site on the templates that were read,
on the paths that were looked up and on their published files that are there, and have no template
either of a name that was asked for in vain. -/
structure Stands (site : Site) (files : FileTree) (published : String → Option String)
    (loads : List Path) (lookups missing : List String) : Prop where
  loads : ∀ name p, site.templateFile? name = some p → p ∈ loads →
    files.target? p = site.files.target? p
  lookups : ∀ path ∈ lookups, published path = site.published path ∧ ∀ content,
    site.files.target? (site.publishedFile path) = some (.file content) →
      files.target? (site.publishedFile path) = some (.file content)
  missing : ∀ name ∈ missing, site.templateFile? name = none →
    (site.moved files published).templateFile? name = none

def Trace.Stands (site : Site) (files : FileTree) (published : String → Option String)
    (trace : Trace) : Prop :=
  Template.Stands site files published trace.loads trace.lookups trace.missing

variable {α β : Type} {site : Site} {files : FileTree} {published : String → Option String}

/-- Whether the outcomes of a rendering whose traces stand are those of another rendering too. -/
structure Repeats (site : Site) (files : FileTree) (published : String → Option String)
    (x y : Render α) : Prop where
  again : ∀ {trace a trace'}, x trace = .ok (a, trace') → trace'.Stands site files published →
    trace.Stands site files published ∧ y trace = .ok (a, trace')

namespace Repeats

theorem pure (a : α) : Repeats site files published (pure a) (pure a) where
  again := by
    rintro trace _ _ ⟨⟩ stands
    exact ⟨stands, rfl⟩

theorem throw (f : Failure) (y : Render α) : Repeats site files published (throw f) y where
  again := by
    rintro trace a trace' ⟨⟩

theorem fail (c : Cause) (y : Render α) : Repeats site files published (fail c) y :=
  throw (.cause c) y

theorem ofExcept (x : Except Cause α) :
    Repeats site files published (ofExcept x) (ofExcept x) := by
  cases x with
  | error c => exact fail c _
  | ok a => exact pure a

theorem bind {x y : Render α} {f g : α → Render β} (first : Repeats site files published x y)
    (second : ∀ a, Repeats site files published (f a) (g a)) :
    Repeats site files published (x >>= f) (y >>= g) where
  again := by
    intro trace b trace'' ran stands
    change (x trace >>= fun r => f r.1 r.2) = _ at ran
    change _ ∧ (y trace >>= fun r => g r.1 r.2) = _
    cases outcome : x trace with
    | error f => rw [outcome] at ran; cases ran
    | ok r =>
      rw [outcome] at ran
      obtain ⟨between, ran'⟩ := (second r.1).again ran stands
      obtain ⟨start, same⟩ := first.again outcome between
      rw [same]
      exact ⟨start, ran'⟩

theorem located {x y : Render α} (file : String) (line : Nat)
    (inner : Repeats site files published x y) :
    Repeats site files published (located file line x) (located file line y) where
  again := by
    intro trace a trace' ran stands
    unfold Template.located at ran ⊢
    cases outcome : x trace with
    | error f => rw [outcome] at ran; cases ran
    | ok r =>
      rw [outcome] at ran
      cases ran
      obtain ⟨start, same⟩ := inner.again outcome stands
      rw [same]
      exact ⟨start, rfl⟩

end Repeats

/-! ## Functions -/

theorem Trace.Stands.of_lookUp {trace : Trace} {path : String}
    (stands : { trace with lookups := path :: trace.lookups }.Stands site files published) :
    trace.Stands site files published :=
  { stands with lookups := fun _ member => stands.lookups _ (List.mem_cons_of_mem _ member) }

theorem repeats_assetPath (name : String) (isMarkup : Bool) :
    Repeats site files published (assetPath site name isMarkup)
      (assetPath (site.moved files published) name isMarkup) where
  again := by
    intro trace v trace' ran stands
    let path := Asset.logicalPath name none
    have reads (site : Site) : assetPath site name isMarkup trace =
        .ok ((site.published path).elim (if isMarkup then .markup path else .text path) .text,
          { trace with lookups := path :: trace.lookups }) := by
      unfold assetPath
      cases site.published path <;> rfl
    rw [reads] at ran ⊢
    cases ran
    obtain ⟨same, -⟩ := stands.lookups path (List.mem_cons_self ..)
    refine ⟨.of_lookUp stands, ?_⟩
    change Except.ok (Option.elim (published path) _ _, _) = _
    rw [same]

theorem publishedFile_moved {path : String} (same : published path = site.published path) :
    (site.moved files published).publishedFile path = site.publishedFile path := by
  change site.outputFile ((published path).getD path) = _
  rw [same]
  rfl

/-- The text of a published file, by the file itself. -/
def inlinedFile (name : String) (file : Path) (files : FileTree) : Render Value :=
  match (FileTree.Op.content file).run files with
  | .ok content _ =>
    match decodeLines content with
    | .ok s => return .markup s
    | .error f => fail (.undecodable f.message)
  | .error .unusablePath _ => fail .embeddedNull
  | .error problem _ => fail (.cannotInline name problem.message)

theorem inlined_eq (name : String) (trace : Trace) : inlined site name trace =
    inlinedFile name (site.publishedFile (Asset.logicalPath name none)) site.files
      { trace with lookups := Asset.logicalPath name none :: trace.lookups } :=
  rfl

theorem inlinedFile_ok {name : String} {file : Path} {trace trace' : Trace} {v : Value}
    (ran : inlinedFile name file files trace = .ok (v, trace')) :
    trace = trace' ∧ ∃ content, files.target? file = some (.file content) ∧
      ∀ others : FileTree, others.target? file = some (.file content) →
        inlinedFile name file others trace = .ok (v, trace') := by
  unfold inlinedFile at ran
  cases read : (FileTree.Op.content file).run files with
  | error problem t => cases problem <;> (rw [read] at ran; cases ran)
  | ok content t =>
    rw [read] at ran
    obtain ⟨found, rfl⟩ := content_ok_iff.1 read
    cases text : decodeLines content with
    | error f => simp only [text] at ran; cases ran
    | ok s =>
      simp only [text] at ran
      cases ran
      refine ⟨rfl, content, found, fun others there => ?_⟩
      have read' : (FileTree.Op.content file).run others = .ok content others :=
        content_ok_iff.2 ⟨there, rfl⟩
      simp only [inlinedFile, read', text]
      rfl

theorem repeats_inlined (name : String) :
    Repeats site files published (inlined site name)
      (inlined (site.moved files published) name) where
  again := by
    intro trace v trace' ran stands
    rw [inlined_eq] at ran ⊢
    obtain ⟨rfl, content, found, again⟩ := inlinedFile_ok ran
    obtain ⟨same, stays⟩ := stands.lookups _ (List.mem_cons_self ..)
    refine ⟨.of_lookUp stands, ?_⟩
    rw [publishedFile_moved same]
    exact again files (stays content found)

theorem repeats_ofAsset (f : Function) (name : String) (isMarkup : Bool) :
    Repeats site files published (ofAsset site f name isMarkup)
      (ofAsset (site.moved files published) f name isMarkup) := by
  cases f with
  | inlineAsset => exact repeats_inlined name
  | squish => exact repeats_assetPath name isMarkup
  | assetPath => exact repeats_assetPath name isMarkup

theorem repeats_applyTo (f : Function) (v : Value) :
    Repeats site files published (applyTo site f v) (applyTo (site.moved files published) f v) := by
  unfold applyTo
  split
  · exact (Repeats.ofExcept _).bind fun _ => .pure _
  · exact repeats_ofAsset ..
  · exact repeats_ofAsset ..
  · exact .fail ..
  · exact .throw ..

theorem repeats_applyFunction (f : Function) (arguments : List Value) :
    Repeats site files published (applyFunction site f arguments)
      (applyFunction (site.moved files published) f arguments) := by
  unfold applyFunction
  split
  · exact .fail ..
  · exact repeats_applyTo ..
  · exact .fail ..

/-! ## Expressions -/

/-- What a scope becomes with other files and fingerprints. -/
def Scope.moved (scope : Scope) (files : FileTree) (published : String → Option String)
    (renderBlock : String → Nat → Render String) : Scope :=
  { scope with site := scope.site.moved files published, renderBlock }

/-- Whether the blocks that a scope renders are repeated by others. -/
def Scope.BlocksRepeat (scope : Scope) (files : FileTree) (published : String → Option String)
    (other : String → Nat → Render String) : Prop :=
  ∀ name distance,
    Repeats scope.site files published (scope.renderBlock name distance) (other name distance)

variable {scope : Scope} {other : String → Nat → Render String}

theorem Scope.repeats_call (blocks : scope.BlocksRepeat files published other) (f : Value)
    (arguments : List Value) :
    Repeats scope.site files published (scope.call f arguments)
      ((scope.moved files published other).call f arguments) := by
  unfold Scope.call
  split
  · exact repeats_applyFunction ..
  · exact .ofExcept _
  · split
    · exact (blocks _ _).bind fun _ => .pure _
    · exact .pure _
  · exact .pure _
  · exact .fail ..
  · exact .fail ..

theorem Scope.repeats_filter (filter : String) (v : Value) (arguments : List Value) :
    Repeats scope.site files published (scope.filter filter v arguments)
      ((scope.moved files published other).filter filter v arguments) := by
  unfold Scope.filter
  split
  · exact repeats_applyFunction ..
  · exact .fail ..

mutual

theorem Expr.repeats_eval (blocks : scope.BlocksRepeat files published other) : ∀ e : Expr,
    Repeats scope.site files published (e.eval scope) (e.eval (scope.moved files published other))
  | .text _ | .integer _ | .real _ | .truth _ | .none | .name _ => .pure _
  | .member e _ | .negative e | .positive e => (e.repeats_eval blocks).bind fun _ => .ofExcept _
  | .item a b | .quotient a b =>
    (a.repeats_eval blocks).bind fun _ => (b.repeats_eval blocks).bind fun _ => .ofExcept _
  | .call f arguments =>
    (f.repeats_eval blocks).bind fun v =>
      (arguments.repeats_eval blocks).bind fun _ => Scope.repeats_call blocks v _
  | .filtered _ filter e arguments =>
    (e.repeats_eval blocks).bind fun v =>
      (arguments.repeats_eval blocks).bind fun _ => Scope.repeats_filter filter v _

theorem Arguments.repeats_eval (blocks : scope.BlocksRepeat files published other) :
    ∀ arguments : Arguments,
      Repeats scope.site files published (arguments.eval scope)
        (arguments.eval (scope.moved files published other))
  | .done => .pure _
  | .more e rest =>
    (e.repeats_eval blocks).bind fun _ => (rest.repeats_eval blocks).bind fun _ => .pure _

end

/-! ## Loading -/

theorem isFile_congr {t t' : FileTree} {p : Path} (same : t'.target? p = t.target? p) :
    t'.isFile p = t.isFile p := by
  rw [FileTree.isFile, FileTree.isFile, same]

theorem templateFile?_eq_some_iff {name : String} {p : Path} : site.templateFile? name = some p ↔
    ".." ∉ pathSegments name ∧ site.views.append (pathSegments name) = p ∧
      site.files.isFile p = true := by
  unfold Site.templateFile?
  dsimp only
  split
  · next absent =>
    refine iff_of_false (by simp) fun ⟨straight, place, file⟩ => ?_
    subst place
    simp [straight, file] at absent
  · next there =>
    rw [Option.some.injEq]
    simp only [not_or, List.contains_eq_mem, decide_eq_true_eq, Bool.not_eq_true',
      Bool.not_eq_false] at there
    constructor
    · rintro rfl
      exact ⟨there.1, rfl, there.2⟩
    · exact fun found => found.2.1

/-- A template that is there is there in files that agree on it. -/
theorem templateFile?_again {name : String} {p : Path} (found : site.templateFile? name = some p)
    (same : files.target? p = site.files.target? p) :
    (site.moved files published).templateFile? name = some p := by
  obtain ⟨straight, place, file⟩ := templateFile?_eq_some_iff.1 found
  exact templateFile?_eq_some_iff.2 ⟨straight, place, (isFile_congr same).trans file⟩

theorem repeats_load (name : String) :
    Repeats site files published (load site name) (load (site.moved files published) name) where
  again := by
    intro trace source trace' ran stands
    unfold load at ran ⊢
    cases found : site.templateFile? name with
    | none => rw [found] at ran; cases ran
    | some p =>
      simp only [found] at ran
      cases read : (FileTree.Op.content p).run site.files with
      | error problem t => rw [read] at ran; cases ran
      | ok content t =>
        cases text : decode content with
        | error f => simp only [read, text] at ran; cases ran
        | ok s =>
          cases parsed : parse s with
          | error d => simp only [read, text, parsed] at ran; cases ran
          | ok body =>
            simp only [read, text, parsed] at ran
            cases ran
            obtain ⟨there, rfl⟩ := content_ok_iff.1 read
            have same := stands.loads name p found (List.mem_cons_self ..)
            have read' : (FileTree.Op.content p).run files = .ok content files :=
              content_ok_iff.2 ⟨same.trans there, rfl⟩
            refine ⟨⟨fun _ _ found member => ?_, stands.lookups, stands.missing⟩, ?_⟩
            · exact stands.loads _ _ found (List.mem_cons_of_mem _ member)
            · have again : (FileTree.Op.content p).run (site.moved files published).files =
                  .ok content files := read'
              simp only [templateFile?_again found same, again, text, parsed]
              rfl

theorem isSome_of_load {name : String} {trace trace' : Trace} {source : Source}
    (ran : load site name trace = .ok (source, trace')) : (site.templateFile? name).isSome := by
  unfold load at ran
  cases found : site.templateFile? name with
  | none => rw [found] at ran; cases ran
  | some p => rfl

theorem repeats_loadNamed (v : Value) :
    Repeats site files published (loadNamed site v) (loadNamed (site.moved files published) v) := by
  unfold loadNamed
  split
  · exact repeats_load _
  · exact repeats_load _
  · exact .fail ..
  · exact .throw ..

/-- The next template to try, and the others if it is not there. -/
def loadOr (site : Site) (name : String) (others : Render Source) : Render Source :=
  if (site.templateFile? name).isSome then load site name
  else do
    modify fun trace => { trace with missing := name :: trace.missing }
    others

theorem repeats_loadOr (name : String) {others others' : Render Source}
    (next : Repeats site files published others others') :
    Repeats site files published (loadOr site name others)
      (loadOr (site.moved files published) name others') where
  again := by
    intro trace source trace' ran stands
    unfold loadOr at ran ⊢
    split at ran
    · obtain ⟨start, again⟩ := (repeats_load name).again ran stands
      rw [if_pos (isSome_of_load again)]
      exact ⟨start, again⟩
    · next absent =>
      obtain ⟨start, again⟩ := next.again ran stands
      have absent := start.missing name (List.mem_cons_self ..) (by simpa using absent)
      refine ⟨⟨start.loads, start.lookups, fun _ member => ?_⟩, ?_⟩
      · exact start.missing _ (List.mem_cons_of_mem _ member)
      · rw [absent, if_neg (by simp)]
        exact again

theorem repeats_loadFirst (missing : Cause) (candidates : List Value) :
    Repeats site files published (loadFirst site missing candidates)
      (loadFirst (site.moved files published) missing candidates) := by
  induction candidates with
  | nil => exact .fail ..
  | cons v rest ih =>
    cases v with
    | text name => exact repeats_loadOr name ih
    | markup name => exact repeats_loadOr name ih
    | undefined what => exact ih
    | _ => exact .throw ..

theorem repeats_loadIncluded (v : Value) :
    Repeats site files published (loadIncluded site v)
      (loadIncluded (site.moved files published) v) := by
  unfold loadIncluded
  split
  · exact repeats_loadNamed _
  · exact repeats_loadNamed _
  · exact repeats_loadNamed _
  · dsimp only
    split
    · exact ⟨by rintro _ _ _ ⟨⟩⟩
    · split
      · exact (Repeats.ofExcept _).bind fun _ => repeats_loadFirst ..
      · exact repeats_loadFirst ..
      · exact .throw ..
      · exact .fail ..

/-! ## Bodies -/

/-- Whether what renders the tasks inside a task is repeated by something else. -/
def DeeperRepeats (site : Site) (files : FileTree) (published : String → Option String) :
    Option (Task → Render String) → Option (Task → Render String) → Prop
  | none, none => True
  | some deeper, some deeper' => ∀ task, Repeats site files published (deeper task) (deeper' task)
  | _, _ => False

variable {deeper deeper' : Option (Task → Render String)}

theorem repeats_renderBlock (inside : DeeperRepeats site files published deeper deeper')
    (task : Task) (blocks : Blocks) (name : String) (distance : Nat) :
    Repeats site files published (renderBlock deeper task blocks name distance)
      (renderBlock deeper' task blocks name distance) := by
  cases deeper <;> cases deeper'
  · exact .fail ..
  · cases inside
  · cases inside
  · next deeper deeper' =>
    simp only [renderBlock]
    cases task.ofBlock blocks name distance with
    | none => exact .pure _
    | some task => exact inside task

theorem repeats_eval (inside : DeeperRepeats site files published deeper deeper') (task : Task)
    (bindings : Variables) (blocks : Blocks) (e : Expr) :
    Repeats site files published (e.eval (task.scope site bindings deeper blocks))
      (e.eval (task.scope (site.moved files published) bindings deeper' blocks)) := by
  have repeated : (task.scope site bindings deeper blocks).BlocksRepeat files published
      (renderBlock deeper' task blocks) :=
    fun name distance => repeats_renderBlock inside task blocks name distance
  exact e.repeats_eval repeated

theorem repeats_renderParts (inside : DeeperRepeats site files published deeper deeper')
    (bindings : Variables) (task : Task) (body : Body) (p : Progress) :
    Repeats site files published (renderParts site bindings deeper task body p)
      (renderParts (site.moved files published) bindings deeper' task body p) := by
  induction body generalizing p with
  | done => exact .pure _
  | text s next ih => exact ih _
  | print line e next ih =>
    simp only [renderParts]
    split
    · exact ih _
    · refine (Repeats.located _ _ ?_).bind fun _ => ih _
      exact (repeats_eval inside ..).bind fun _ => .ofExcept _
  | conditional line test yes no next yesIh noIh ih =>
    refine (Repeats.located _ _ (repeats_eval inside ..)).bind fun v => ?_
    dsimp only
    split
    · exact (yesIh p).bind fun p => ih p
    · exact (noIh p).bind fun p => ih p
  | insert line template next ih =>
    refine (Repeats.located _ _ ?_).bind fun _ => ih _
    refine (repeats_eval inside ..).bind fun v => ?_
    cases deeper <;> cases deeper'
    · exact .fail ..
    · cases inside
    · cases inside
    · exact (repeats_loadIncluded v).bind fun source => inside _
  | inherit line before template next ih =>
    simp only [renderParts]
    split
    · exact ⟨by rintro _ _ _ ⟨⟩⟩
    · refine (Repeats.located _ _ ?_).bind fun p => ih p
      refine (repeats_eval inside ..).bind fun v => ?_
      cases deeper <;> cases deeper'
      · exact .fail ..
      · cases inside
      · cases inside
      · exact (repeats_loadNamed v).bind fun _ => .pure _
  | block line name body next bodyIh ih =>
    simp only [renderParts]
    split
    · exact ih _
    · exact (Repeats.located _ _ (repeats_renderBlock inside ..)).bind fun _ => ih _

theorem repeats_renderTask (bindings : Variables) (depth : Nat) (task : Task) :
    Repeats site files published (renderTask site bindings depth task)
      (renderTask (site.moved files published) bindings depth task) := by
  induction depth generalizing task with
  | zero =>
    have inside : DeeperRepeats site files published none none := trivial
    exact (repeats_renderParts inside ..).bind fun p => .pure _
  | succ depth ih =>
    have inside : DeeperRepeats site files published (some (renderTask site bindings depth))
        (some (renderTask (site.moved files published) bindings depth)) := ih
    refine (repeats_renderParts inside ..).bind fun p => ?_
    cases p.extended with
    | none => exact .pure _
    | some source => exact (ih _).bind fun _ => .pure _

/-- A page that can be rendered is rendered alike from other files and fingerprints if these agree
with the first on the templates that were loaded and on the paths that were looked up with their
published files, and the names of templates that were asked for in vain lead nowhere there. -/
theorem render_repeats {bindings : Variables} {name file : String} {rendered : Rendered}
    (ran : render site bindings name file = .ok rendered)
    (stands : Stands site files published rendered.loads rendered.lookups rendered.missing) :
    render (site.moved files published) bindings name file = .ok rendered := by
  have loaded : Repeats site files published (load site name)
      (load (site.moved files published) name) := repeats_load name
  have page := (loaded.bind fun source =>
    repeats_renderTask bindings maxNesting (.ofPage source)).located file 0
  unfold render at ran ⊢
  dsimp only at ran ⊢
  split at ran
  · cases ran
  · cases ran
  · next html trace outcome =>
    cases ran
    have stands : trace.Stands site files published :=
      ⟨fun name p found member => stands.loads name p found (List.mem_reverse.2 member),
        fun path member => stands.lookups path (List.mem_reverse.2 member),
        fun name member => stands.missing name (List.mem_reverse.2 member)⟩
    obtain ⟨-, again⟩ := page.again outcome stands
    rw [StateT.run, again]

end Folio.Template
