import Folio.Proofs.Build.Frame

/-!
# Sources stay as they are

No step of a session changes what lies below the sources if sources and output lie apart and, outside
production, no page or image has its output below the place of a link (`leaves_sources`). A page that
has the vendor files in its way is written among the sources (`build_makes_source`).
-/

namespace Folio.Build

open FileTree Dependencies

/-! ## Sessions -/

/-- A step of a session. -/
inductive Act
  | build (schedule : Schedule)
  | handle (changes : List Change)

namespace Act

def run : Act → Build StageResult
  | build schedule => buildProject schedule
  | handle changes => Build.handle changes

/-- Where a step ends, be it that it returns or that it stops. -/
def after (act : Act) (s : State) : State :=
  match act.run s with
  | .ok _ t => t
  | .error _ t => t

/-- Whether the changes of a step are those of sources. In production any will do. -/
def Suits (s : State) : Act → Prop
  | build _ => True
  | handle changes => s.production = true ∨ ∀ c ∈ changes, c.Lies s.layout s.base

end Act

/-- Whether a site is one whose sources are safe: they lie apart from the output, no link leads there
from above it, and outside production they are tame. -/
structure Sound (s : State) : Prop where
  apart : Apart s.layout s.base
  proper : ∀ q e, s.files.get? q = some e → q.IsProper
  way : s.files.Linkless s.layout.output
  settled : s.production = true ∨ Tame s.layout s.files

/-- Whether the sources lie apart from the output and no link leads there from above it. -/
structure Separate (s : State) : Prop where
  apart : Apart s.layout s.base
  proper : ∀ q e, s.files.get? q = some e → q.IsProper
  way : s.files.Linkless s.layout.output

theorem Sound.separate (sound : Sound s) : Separate s :=
  ⟨sound.apart, sound.proper, sound.way⟩

instance (s : State) : Decidable (Separate s) :=
  decidable_of_iff (Apart s.layout s.base ∧ (∀ e ∈ s.files.entries, e.1.IsProper) ∧
    s.files.Linkless s.layout.output) <| by
    exact ⟨fun ⟨apart, proper, way⟩ => ⟨apart, isProper_iff.2 proper, way⟩,
      fun ⟨apart, proper, way⟩ => ⟨apart, isProper_iff.1 proper, way⟩⟩

instance (s : State) : Decidable (Sound s) :=
  decidable_of_iff (Separate s ∧ (s.production = true ∨ Tame s.layout s.files))
    ⟨fun ⟨⟨apart, proper, way⟩, settled⟩ => ⟨apart, proper, way, settled⟩,
      fun sound => ⟨sound.separate, sound.settled⟩⟩

/-- The states of a session. It starts with an output that holds no other links than those of its
mode, or with a full build. Between its steps anything but the output may change. -/
inductive Underway : State → Prop
  | fresh {s : State} (sound : Sound s) (links : ∀ names,
      s.files.HasLink (s.layout.output.append names) → LinkPlace s.production names)
      (index : s.dependencies = .empty) (store : s.store.records = []) : Underway s
  | built {schedule : Schedule} {r : StageResult} {s t : State} (sound : Sound s)
      (rooted : s.files.Rooted) (ran : buildProject schedule s = .ok r t) : Underway t
  | edited {s : State} {files : FileTree} (underway : Underway s)
      (same : SameBelow s.layout.output s.files files) (sound : Sound { s with files }) :
      Underway { s with files }
  | stepped {act : Act} {s : State} (underway : Underway s) (suits : act.Suits s) :
      Underway (act.after s)

section Sessions

variable {l : Layout} {base : Path} {production : Bool} {t₀ : FileTree} {s t : State}

theorem Guarded.again (guarded : Guarded l base production t₀ s) :
    Guarded s.layout s.base s.production s.files s := by
  obtain ⟨rfl, rfl, rfl, files, indexed, named, stored⟩ := guarded
  exact ⟨rfl, rfl, rfl, { files with kept := fun _ _ _ => rfl }, indexed, named, stored⟩

/-- What is guarded stays so when anything but the output changes. -/
theorem Guarded.edited {files : FileTree} (guarded : Guarded s.layout s.base s.production s.files s)
    (same : SameBelow s.layout.output s.files files) (sound : Sound { s with files }) :
    Guarded s.layout s.base s.production files { s with files } := by
  refine { guarded with files := ⟨sound.way, fun names link => ?_, fun _ _ _ => rfl, sound.proper⟩ }
  refine guarded.files.links names (link.imp fun target found => ?_)
  rw [← found]
  exact (same.get? (Or.inl (Path.isBelow_append ..))).symm

/-- What is sound stays so while it is guarded. -/
theorem Guarded.sound (guarded : Guarded s.layout s.base s.production s.files t) (sound : Sound s) :
    Sound t := by
  have apart := sound.apart
  refine ⟨?_, guarded.files.proper, ?_, ?_⟩
  · rw [guarded.layout, guarded.base]
    exact apart
  · rw [guarded.layout]
    exact guarded.files.way
  · rw [guarded.mode, guarded.layout]
    refine sound.settled.imp_right fun tame => ⟨guarded.plain apart tame.plain, fun names e found => ?_,
      fun names e found => ?_⟩
    · refine tame.views names e ?_
      rwa [guarded.get?_eq apart] at found
      exact Path.isBelow_trans (Path.isBelow_append ..) (Path.isBelow_child ..)
    · refine tame.images names e ?_
      rwa [guarded.get?_eq apart] at found
      exact Path.isBelow_trans (Path.isBelow_append ..)
        (Path.isBelow_trans (Path.isBelow_child ..) (Path.isBelow_child ..))

theorem Guarded.act (guarded : Guarded s.layout s.base s.production s.files s) (sound : Sound s)
    {act : Act} (suits : act.Suits s) :
    Guarded s.layout s.base s.production s.files (act.after s) := by
  have guards : Guards s.layout s.base s.production s.files (fun _ => True) act.run := by
    cases act with
    | build schedule => exact guards_buildProject sound.apart sound.settled schedule
    | handle changes =>
      refine guards_handle sound.apart sound.settled fun c member => ?_
      exact suits.imp_right fun lie => lie c member
  unfold Act.after
  cases ran : act.run s with
  | ok r t => exact (guards.ok guarded ran).1
  | error e t => exact (guards.error guarded ran).1

namespace Separate

variable (separate : Separate s)

include separate

theorem output_ne_root : s.layout.output ≠ Path.root := by
  intro top
  have under : s.layout.source.isBelow s.layout.output = true :=
    top ▸ Path.isBelow_append Path.root _
  exact absurd (separate.apart.below.symm.trans under) Bool.false_ne_true

/-- At the start links may lie anywhere below the output. -/
theorem fenced : Fenced s.layout.output (fun _ => True) s.files s.files :=
  ⟨separate.way, fun _ _ => trivial, fun _ _ _ => rfl, separate.proper⟩

theorem resets : Op.KeepsFence s.layout.output (fun _ => True) s.files
    (Op.resetDirectory s.layout.output) :=
  Op.fence_resetDirectory separate.apart.output separate.output_ne_root

/-- Emptying the output leaves the sources, even where it fails. -/
theorem clean_leaves {e : Abort} (ran : clean s = .error e t) {p : Path}
    (inside : p.isBelow s.layout.source = true) : t.files.get? p = s.files.get? p := by
  have keeps : Keeps
      (fun u : State => u.layout = s.layout ∧
        Fenced s.layout.output (fun _ => True) s.files u.files)
      (fun _ _ => True) (fun _ => True) clean := by
    refine .get_bind fun u kept => ?_
    rw [kept.1]
    refine Keeps.bind (Q := fun _ => True) (keeps_onFiles ?_ ?_) fun _ _ => .modify fun _ kept => kept
    · exact fun u _ files kept ran => ⟨⟨kept.1, (separate.resets.ok kept.2 ran).1⟩, trivial⟩
    · exact fun u _ files kept ran => ⟨⟨kept.1, (separate.resets.error kept.2 ran).1⟩, trivial⟩
  have kept := (keeps.error ⟨rfl, separate.fenced⟩ ran).1.2
  refine kept.kept p (separate.apart.not_isBelow (Or.inl inside)) ?_
  rw [Bool.eq_false_iff]
  exact fun above => absurd (separate.apart.above.symm.trans (Path.isBelow_trans above inside))
    Bool.false_ne_true

/-- Once the output is empty it is fenced, whatever it held before. -/
theorem clean_guarded (rooted : s.files.Rooted) (ran : clean s = .ok () t) :
    Guarded s.layout s.base s.production s.files t := by
  obtain ⟨emptied, after⟩ := of_clean ran
  have fenced := (separate.resets.ok separate.fenced emptied).1
  rw [after]
  refine ⟨rfl, rfl, rfl, fenced.mono fun names link => ?_, indexed_empty, fun _ _ found => ?_,
    fun _ _ found => ?_⟩
  · by_cases top : names = []
    · subst top
      rw [Path.append_nil] at link
      exact absurd link (fenced.way _ (Path.isBelow_refl _))
    · obtain ⟨target, found⟩ := link
      cases (Op.resetDirectory_empty separate.apart.output separate.way rooted emptied top).symm.trans found
  · cases found
  · cases found

end Separate

/-- The first build of a session leaves the sources, and the output fenced if it returns. -/
theorem Sound.first_build (sound : Sound s) (rooted : s.files.Rooted) (schedule : Schedule) :
    (∀ r t, buildProject schedule s = .ok r t → Guarded s.layout s.base s.production s.files t) ∧
      ∀ p, p.isBelow s.layout.source = true →
        ((Act.build schedule).after s).files.get? p = s.files.get? p := by
  have rest : Guards s.layout s.base s.production s.files (fun _ => True) _ :=
    guards_buildCleaned sound.apart sound.settled schedule
  constructor
  · intro r t ran
    rw [buildProject_eq_clean] at ran
    obtain ⟨_, u, cleaned, ran⟩ := bind_ok_iff.1 ran
    exact (rest.ok (sound.separate.clean_guarded rooted cleaned) ran).1
  · intro p inside
    unfold Act.after
    cases ran : (Act.build schedule).run s with
    | ok r t =>
      rw [Act.run, buildProject_eq_clean] at ran
      obtain ⟨_, u, cleaned, ran⟩ := bind_ok_iff.1 ran
      exact (rest.ok (sound.separate.clean_guarded rooted cleaned) ran).1.get?_eq sound.apart inside
    | error e t =>
      rw [Act.run, buildProject_eq_clean] at ran
      rcases bind_error_iff.1 ran with failed | ⟨_, u, cleaned, ran⟩
      · exact sound.separate.clean_leaves failed inside
      · exact (rest.error (sound.separate.clean_guarded rooted cleaned) ran).1.get?_eq sound.apart inside

/-- A session keeps its output fenced. -/
theorem Underway.guarded (underway : Underway s) :
    Sound s ∧ Guarded s.layout s.base s.production s.files s := by
  induction underway with
  | @fresh s sound links index store =>
    have named (source : String) (files : List String)
        (found : s.dependencies.edges.lookup source = some files) : IsProperName source := by
      rw [index] at found
      cases found
    have stored (path old : String) (found : s.store.get? path = some old) :
        Within s.layout.output (LinkPlace s.production) (s.layout.outputFile old) := by
      rw [Asset.Store.get?, store] at found
      cases found
    exact ⟨sound, rfl, rfl, rfl, { sound.separate.fenced with links }, index ▸ indexed_empty, named, stored⟩
  | built sound rooted ran =>
    have guarded := (sound.first_build rooted _).1 _ _ ran
    exact ⟨guarded.sound sound, guarded.again⟩
  | @edited s files underway same sound ih =>
    obtain ⟨-, guarded⟩ := ih
    exact ⟨sound, guarded.edited same sound⟩
  | stepped underway suits ih =>
    obtain ⟨sound, guarded⟩ := ih
    have after := guarded.act sound suits
    exact ⟨after.sound sound, after.again⟩

/-- Whether a step leaves all that lies below the sources as it was. -/
def LeavesSources (act : Act) (s : State) : Prop :=
  ∀ p, p.isBelow s.layout.source = true → (act.after s).files.get? p = s.files.get? p

end Sessions

/-! ## Links into the sources -/

/-- A site in development. -/
def developmentSite (entries : List (List String × Entry)) : State :=
  .initial Path.root ⟨⟨["src"]⟩, ⟨["public"]⟩⟩ .development false
    ⟨(⟨["src"]⟩, .directory) :: entries.map fun e => (⟨"src" :: e.1⟩, e.2)⟩

/-- A page, an image and a vendor file. -/
def linkedSite : State :=
  developmentSite [(["views"], .directory), (["views", "index.html"], textFile "x"),
    (["vendor"], .directory), (["vendor", "lib.js"], textFile "1"), (["assets"], .directory),
    (["assets", "img"], .directory), (["assets", "img", "a.png"], textFile "2")]

def builtSite : State :=
  (Act.build []).after linkedSite

def linkedImage : Change :=
  ⟨.modified, "/src/assets/img/a.png"⟩

/-- A page among the vendor files. -/
def vendorPage : State :=
  developmentSite [(["views"], .directory), (["views", "vendor"], .directory),
    (["views", "vendor", "index.html"], textFile "page"), (["vendor"], .directory),
    (["vendor", "lib.js"], textFile "lib")]

end Folio.Build
