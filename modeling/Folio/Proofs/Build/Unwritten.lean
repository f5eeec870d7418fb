import Folio.Proofs.Build.Publish
import Folio.Proofs.Build.Sources
import Folio.Proofs.Template.Repeat

/-!
# Output that cannot be written

A publication records the new name of its path before it writes the file of that name. Where that file
cannot be written the publication stops with the name recorded. No file is lost, but references
resolve as before only if the path had this name already (`finish_unwritten`).
-/

namespace Folio.Build

open FileTree

/-! ## What is published -/

/-- The path and the content that a script comes to in the second step, unless it has a fault. -/
def State.scriptOutput? (s : State) (source : Path) (bytes : Bytes) : Option (String × Bytes) :=
  match Text.decodeSource bytes source.text with
  | .error _ => none
  | .ok text =>
    match Script.inject s.routes s.store.resolve text with
    | .error _ => none
    | .ok injected => do
      let script := if s.production then Script.compact injected.output else injected.output
      let segments ← source.below? s.layout.scripts
      let path ← s.layout.logicalPath (s.layout.outputScripts.append segments)
      return (path, Text.encode script)

def State.styleOutput? (s : State) (source : Path) (prepared : String × Names) :
    Option (String × Bytes) := do
  let segments ← source.below? s.layout.styles
  let output := s.layout.outputStyles.append segments
  let path ← s.layout.logicalPath (output.withName (Style.outputName output.name))
  return (path, Text.encode prepared.1)

def State.imageOutput? (s : State) (source output : Path) : Option (String × Bytes) := do
  let path ← s.layout.logicalPath output
  match s.files.target? source with
  | some (.file content) => return (path, content)
  | _ => none

inductive AssetKind
  | script
  | style
  | image

namespace AssetKind

def craft : AssetKind → Craft
  | script => scriptCraft
  | style => styleCraft
  | image => imageCraft

/-- The path and the content that a source comes to in the second step of its craft. -/
def output? (s : State) (source : Path) :
    (kind : AssetKind) → kind.craft.Prepared → Option (String × Bytes)
  | script => s.scriptOutput? source
  | style => s.styleOutput? source
  | image => s.imageOutput? source

end AssetKind

section Stopped

variable {s t : State} {source output : Path} {path : String} {content : Bytes} {e : Abort}

theorem belowOf_eq {p directory : Path} {segments : List String}
    (below : p.below? directory = some segments) (s : State) :
    belowOf p directory s = .ok segments s := by
  rw [belowOf, below]
  rfl

theorem logicalPathOf_eq (logical : s.layout.logicalPath output = some path) :
    logicalPathOf output s = .ok path s := by
  refine bind_ok_iff.2 ⟨s, s, rfl, ?_⟩
  rw [logical]
  rfl

/-- A text cannot be published if its content cannot. -/
theorem publishText_stopped {text : String} (names : Names)
    (logical : s.layout.logicalPath output = some path)
    (stopped : publish path (Text.encode text) s = .error e t) :
    publishText source output text names s = .error e t := by
  rw [publishText, bind_of_ok (logicalPathOf_eq logical)]
  exact bind_error_iff.2 (Or.inl stopped)

theorem scriptCraft_stopped {bytes : Bytes}
    (given : s.scriptOutput? source bytes = some (path, content))
    (stopped : publish path content s = .error e t) :
    scriptCraft.finish source bytes s = .error e t := by
  unfold State.scriptOutput? at given
  split at given
  · cases given
  · next text decoded =>
    split at given
    · cases given
    · next injected placed =>
      obtain ⟨segments, below, given⟩ := Option.bind_eq_some_iff.1 given
      obtain ⟨path', logical, given⟩ := Option.bind_eq_some_iff.1 given
      cases given
      refine bind_error_iff.2 (Or.inr ⟨s, s, rfl, ?_⟩)
      rw [decoded]
      dsimp only
      rw [placed]
      dsimp only
      rw [bind_of_ok (belowOf_eq below s)]
      exact publishText_stopped _ logical stopped

theorem styleCraft_stopped {prepared : String × Names}
    (given : s.styleOutput? source prepared = some (path, content))
    (stopped : publish path content s = .error e t) :
    styleCraft.finish source prepared s = .error e t := by
  obtain ⟨segments, below, given⟩ := Option.bind_eq_some_iff.1 given
  obtain ⟨path', logical, given⟩ := Option.bind_eq_some_iff.1 given
  cases given
  refine bind_error_iff.2 (Or.inr ⟨s, s, rfl, ?_⟩)
  rw [bind_of_ok (belowOf_eq below s)]
  exact publishText_stopped _ logical stopped

theorem imageCraft_stopped (production : s.production = true)
    (given : s.imageOutput? source output = some (path, content))
    (stopped : publish path content s = .error e t) :
    imageCraft.finish source output s = .error e t := by
  obtain ⟨path', logical, given⟩ := Option.bind_eq_some_iff.1 given
  split at given
  · next content' named =>
    cases given
    have read : readFile source s = .ok content s := by
      rw [readFile, onFiles, Template.content_ok_iff.2 ⟨named, rfl⟩]
    refine bind_error_iff.2 (Or.inr ⟨s, s, rfl, ?_⟩)
    rw [if_pos production, bind_of_ok read, bind_of_ok (logicalPathOf_eq logical)]
    exact bind_error_iff.2 (Or.inl stopped)
  · cases given

/-- A source stops where what it comes to cannot be published. -/
theorem finish_stopped {kind : AssetKind} {prepared : kind.craft.Prepared}
    (production : s.production = true)
    (given : kind.output? s source prepared = some (path, content))
    (stopped : publish path content s = .error e t) :
    kind.craft.finish source prepared s = .error e t := by
  cases kind with
  | script => exact scriptCraft_stopped given stopped
  | style => exact styleCraft_stopped given stopped
  | image => exact imageCraft_stopped production given stopped

end Stopped

/-! ## What is recorded -/

/-- Whether each record of a production site leads to a file with the content that it was made of. -/
structure Upheld (s : State) : Prop where
  production : s.production = true
  enabled : s.store.enabled = true
  records : ∀ path physical, s.store.get? path = some physical → ∃ content,
    physical = physicalPath path content ∧
      s.files.target? (s.layout.outputFile physical) = some (.file content)

section Unwritten

variable {s t : State} {path : String} {content : Bytes} {e : Abort}

/-- A publication stops where its file cannot be written, with its name recorded. -/
theorem publish_unwritten (enabled : s.store.enabled = true)
    (unwritten : writeFile (assetFile s.layout path content) content (s.published path content) =
      .error e t) : publish path content s = .error e t := by
  refine bind_error_iff.2 (Or.inr ⟨s, s, rfl, ?_⟩)
  rw [physical_eq enabled]
  refine bind_error_iff.2 (Or.inr ⟨(), s.published path content, rfl, ?_⟩)
  exact bind_error_iff.2 (Or.inl unwritten)

/-- A source of a production site whose output cannot be written stops there. What were files are
files, and what was recorded is but for the path that was to be published: it is given the name of
the new content. So all records are as they were and lead to files if and only if the path had this
name already. -/
theorem finish_unwritten {kind : AssetKind} {source : Path} {prepared : kind.craft.Prepared}
    (upheld : Upheld s) (given : kind.output? s source prepared = some (path, content))
    (unwritten : writeFile (assetFile s.layout path content) content (s.published path content) =
      .error e t) :
    kind.craft.finish source prepared s = .error e t ∧
      (∀ p, s.files.isFile p = true → t.files.isFile p = true) ∧
      (∀ other, t.store.get? other =
        if other = path then some (physicalPath path content) else s.store.get? other) ∧
      ((∀ other, t.store.get? other = s.store.get? other) ∧
          (∀ other physical, t.store.get? other = some physical →
            t.files.isFile (t.layout.outputFile physical) = true) ↔
        s.store.get? path = some (physicalPath path content)) := by
  have stopped := publish_unwritten upheld.enabled unwritten
  obtain ⟨problem, files, failed, rfl⟩ := onFiles_stopped unwritten
  have lasting (p : Path) (file : s.files.isFile p = true) : files.isFile p = true := by
    obtain ⟨held, named⟩ := isFile_iff.1 file
    exact isFile_iff.2 ((Op.write_persists failed).target? named)
  have records := get?_published_of_enabled upheld.enabled path content
  refine ⟨finish_stopped upheld.production given stopped, lasting, records, ?_, fun had => ?_⟩
  · rintro ⟨same, -⟩
    rw [← same path, records path, if_pos rfl]
  · have same (other : String) :
        (s.published path content).store.get? other = s.store.get? other := by
      rw [records other]
      split
      · next here => rw [here, had]
      · rfl
    refine ⟨same, fun other physical found => lasting _ ?_⟩
    obtain ⟨held, -, named⟩ := upheld.records other physical ((same other).symm.trans found)
    exact isFile_iff.2 ⟨held, named⟩

end Unwritten

/-! ## A script that cannot be written -/

/-- A site whose script is given other content once it is built, with a directory in the way of the
new output. -/
def blockedScript : State :=
  let built := (Act.build []).after <| productionSite [(["assets"], .directory),
    (["assets", "js"], .directory), (["assets", "js", "a.js"], textFile "1")]
  { built with
    files := (built.files.put firstScript (textFile "2")).put
      ⟨["public", "assets", "js", ".a-c81e728d9d.js.tmp"]⟩ .directory }

theorem upheld_blockedScript : Upheld blockedScript := by
  have records : blockedScript.store.records = [("/assets/js/a.js", "/assets/js/a-c4ca4238a0.js")] := by
    decide +kernel
  refine ⟨by decide +kernel, by decide +kernel, fun path physical found => ?_⟩
  rw [Asset.Store.get?, records] at found
  by_cases same : path = "/assets/js/a.js"
  · subst same
    cases found
    exact ⟨Text.encode "1", by decide +kernel, by decide +kernel⟩
  · simp [List.lookup_cons, beq_eq_false_iff_ne.2 same] at found

theorem output?_blockedScript :
    AssetKind.script.output? blockedScript firstScript (Text.encode "2") =
      some ("/assets/js/a.js", Text.encode "2") := by
  decide +kernel

theorem stops_blockedScript :
    stops (writeFile (assetFile blockedScript.layout "/assets/js/a.js" (Text.encode "2"))
        (Text.encode "2"))
      (blockedScript.published "/assets/js/a.js" (Text.encode "2"))
      (fun t => t.store.get? "/assets/js/a.js" == some "/assets/js/a-c81e728d9d.js") = true := by
  decide +kernel

theorem finish_unwritten_of_blockedScript : ∃ e t,
    scriptCraft.finish firstScript (Text.encode "2") blockedScript = .error e t ∧
      (∀ p, blockedScript.files.isFile p = true → t.files.isFile p = true) ∧
      t.store.get? "/assets/js/a.js" =
        some (physicalPath "/assets/js/a.js" (Text.encode "2")) := by
  obtain ⟨e, t, unwritten, -⟩ := exists_of_stops stops_blockedScript
  obtain ⟨stopped, lasting, records, -⟩ :=
    finish_unwritten upheld_blockedScript output?_blockedScript unwritten
  exact ⟨e, t, stopped, lasting, (records "/assets/js/a.js").trans (if_pos rfl)⟩

/-- References to a script whose output cannot be written do not resolve as before. -/
theorem finish_unwritten_fails :
    ¬ ∀ (kind : AssetKind) (s t : State) (source : Path) (prepared : kind.craft.Prepared)
      (path : String) (content : Bytes) (e : Abort), Upheld s →
      kind.output? s source prepared = some (path, content) →
      writeFile (assetFile s.layout path content) content (s.published path content) = .error e t →
      kind.craft.finish source prepared s = .error e t ∧
        (∀ other, t.store.get? other = s.store.get? other) ∧
        ∀ other physical, t.store.get? other = some physical →
          t.files.isFile (t.layout.outputFile physical) = true := by
  intro unchanged
  obtain ⟨e, t, unwritten, recorded⟩ := exists_of_stops stops_blockedScript
  obtain ⟨-, same, -⟩ := unchanged .script blockedScript t firstScript _ _ _ e upheld_blockedScript
    output?_blockedScript unwritten
  have before : blockedScript.store.get? "/assets/js/a.js" = some "/assets/js/a-c4ca4238a0.js" := by
    decide +kernel
  rw [same, before] at recorded
  exact absurd recorded (by decide)

end Folio.Build
