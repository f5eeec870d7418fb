import Folio.Proofs.Build.Invariant
import Folio.Proofs.Layout

/-!
# What crafts and pages keep

A publication keeps an invariant that is kept by what it writes and removes (`keeps_publish`). A
source can be taken through its craft if that holds of its publications (`takes_script`,
`takes_style`, `takes_image`), and a page can be rendered if it holds of the page file
(`keeps_addPage`).
-/

namespace Folio.Build

variable {I : State → Prop} {E : Abort → State → Prop} {l : Layout} {p : Path}

/-- The segments below the output of what is made of a stylesheet. -/
def sheetNames (segments : List String) : List String :=
  let source : Path := ⟨"assets" :: "css" :: segments⟩
  (source.withName (Style.outputName source.name)).segments

theorem sheetNames_ne_nil (segments : List String) : sheetNames segments ≠ [] := by
  simp [sheetNames, Path.withName]

theorem outputStyles_withName (l : Layout) (segments : List String) :
    (l.outputStyles.append segments).withName
        (Style.outputName (l.outputStyles.append segments).name) =
      l.output.append (sheetNames segments) := by
  have named : (l.output.append ("assets" :: "css" :: segments)).name =
      (Path.mk ("assets" :: "css" :: segments)).name := by
    simp [Path.name, Path.append, List.getLast?_cons]
  rw [l.outputStyles_append, named, Path.withName_append (List.cons_ne_nil _ _)]
  rfl

section Crafts

variable {R : Outcome → Prop} (layout : ∀ s, I s → s.layout = l)
  (compiled : ∀ path, Keeps I E (fun _ => True) (noteCompiled path))

include layout

/-- The public path of what lies in the output can be told. -/
theorem keeps_logicalPathOf (below : p.isBelow l.output = true) :
    Keeps I E (fun path => l.logicalPath p = some path) (logicalPathOf p) := by
  obtain ⟨segments, found⟩ := exists_below? below
  refine .get_bind fun s kept => ?_
  rw [layout s kept, Layout.logicalPath, found]
  exact .pure rfl

/-! ## Publications -/

/-- A publication writes one file and removes at most the one whose place it takes. -/
theorem keeps_publish {path : String} {content : Bytes}
    (published : ∀ s, I s → I (s.published path content))
    (write : ∀ s, I s → Keeps I E (fun _ => True)
      (writeFile (l.outputFile (s.store.physical path content)) content))
    (remove : ∀ s old, I s → s.store.get? path = some old →
      Keeps I E (fun _ => True) (removeFile (l.outputFile old)))
    (compiled : ∀ path, Keeps I E (fun _ => True) (noteCompiled path)) :
    Keeps I E (· = l.outputFile path) (publish path content) := by
  refine .get_bind fun s kept => ?_
  refine (Keeps.modify fun t kept => published t kept).bind fun _ _ => ?_
  rw [layout s kept]
  refine (write s kept).bind fun _ _ => ?_
  have removed : Keeps I E (fun _ => True)
      (removeEarlier (s.store.get? path) (s.store.physical path content)) := by
    unfold removeEarlier
    split
    · next old found =>
      split
      · refine .get_bind fun t kept' => ?_
        rw [layout t kept']
        exact remove s old kept found
      · exact .pure trivial
    · exact .pure trivial
  exact removed.bind fun _ _ => (compiled path).bind fun _ _ => .pure rfl

/-- What is made of a source is published under the path of its output. -/
theorem keeps_publishText {names : List String} {text : String} {lookups : Names}
    (some : names ≠ [])
    (publish : Keeps I E (fun file => R (.ok file))
      (publish (Path.mk names).text (Text.encode text)))
    (made : ∀ s, I s → I (s.made .asset p [] lookups)) :
    Keeps I E R (publishText p (l.output.append names) text lookups) := by
  refine (keeps_logicalPathOf layout (Path.isBelow_append ..)).bind fun path logical => ?_
  rw [l.logicalPath_append some] at logical
  cases logical
  exact publish.bind fun file answer => (Keeps.modify made).bind fun _ _ => .pure answer

/-! ## Crafts -/

/-- A script without faults is published at its place among the scripts of the output. -/
theorem keeps_scriptFinish {content : Bytes} (fault : ∀ f, R (.error f))
    (outside : ∀ s, I s → p.isBelow l.scripts = false → E (.outside p) s)
    (publish : ∀ segments, l.scripts.append segments = p → ∀ text lookups,
      Keeps I E R (publishText p (l.output.append ("assets" :: "js" :: segments)) text lookups)) :
    Keeps I E R (scriptCraft.finish p content) := by
  refine .get_bind fun s kept => ?_
  cases Text.decodeSource content p.text with
  | error f => exact .pure (fault f)
  | ok text =>
    dsimp only
    cases Script.inject s.routes s.store.resolve text with
    | error d => exact .pure (fault _)
    | ok injected =>
      dsimp only
      rw [layout s kept]
      refine (keeps_belowOf outside).bind fun segments found => ?_
      rw [l.outputScripts_append]
      exact publish segments (Path.append_of_below? found) _ _

omit layout in
/-- A stylesheet that is a file is compiled, whatever comes of it. -/
theorem keeps_stylePrepare {Q : Except Fault (String × Names) → Prop}
    (missing : ∀ s, I s → s.files.isFile p = false → E (.noSheet p) s)
    (answer : ∀ s, I s → s.files.isFile p = true → ∀ out, Q out) :
    Keeps I E Q (styleCraft.prepare p) := by
  refine .get_if (fun s kept gone => missing s kept (by simpa using gone)) fun s kept file => ?_
  have answers := answer s kept (by simpa using file)
  split
  · exact .pure (answers _)
  · exact .pure (answers _)

theorem keeps_styleFinish {prepared : String × Names}
    (outside : ∀ s, I s → p.isBelow l.styles = false → E (.outside p) s)
    (publish : ∀ segments, l.styles.append segments = p →
      Keeps I E R (publishText p (l.output.append (sheetNames segments)) prepared.1 prepared.2)) :
    Keeps I E R (styleCraft.finish p prepared) := by
  refine .get_bind fun s kept => ?_
  rw [layout s kept]
  refine (keeps_belowOf outside).bind fun segments found => ?_
  dsimp only
  rw [outputStyles_withName]
  exact publish segments (Path.append_of_below? found)

theorem keeps_imagePrepare {Q : Path → Prop}
    (outside : ∀ s, I s → p.isBelow l.images = false → E (.outside p) s)
    (answer : ∀ segments, l.images.append segments = p →
      Q (l.output.append ("assets" :: "img" :: segments))) :
    Keeps I E (fun out => ∀ output, out = .ok output → Q output) (imageCraft.prepare p) := by
  refine .get_bind fun s kept => ?_
  rw [layout s kept]
  refine (keeps_belowOf outside).bind fun segments found => .pure ?_
  rintro _ ⟨⟩
  exact l.outputImages_append segments ▸ answer segments (Path.append_of_below? found)

include compiled

/-- An image is published in production and linked otherwise. -/
theorem keeps_imageFinish {names : List String} (some : names ≠ [])
    (read : Keeps I E (fun _ => True) (readFile p))
    (publish : ∀ s, I s → s.production = true → ∀ content,
      Keeps I E (fun file => R (.ok file)) (publish (Path.mk names).text content))
    (link : ∀ s, I s → ¬ s.production = true →
      Keeps I E (fun _ => R (.ok (l.output.append names))) (linkFile p (l.output.append names))) :
    Keeps I E R (imageCraft.finish p (l.output.append names)) := by
  have told : Keeps I E (fun path => path = (Path.mk names).text)
      (logicalPathOf (l.output.append names)) := by
    refine (keeps_logicalPathOf layout (Path.isBelow_append ..)).mono fun path logical => ?_
    rw [l.logicalPath_append some] at logical
    exact (Option.some.inj logical).symm
  refine .get_bind fun s kept => ?_
  split
  · next mode =>
    refine read.bind fun content _ => told.bind fun path same => ?_
    subst same
    exact (publish s kept mode content).bind fun file answer => .pure answer
  · next mode =>
    refine (link s kept mode).bind fun _ answer => told.bind fun path _ => ?_
    exact (compiled path).bind fun _ _ => .pure answer

/-- Vendor files are put below the output if there are any. -/
theorem keeps_publishVendor
    (put : ∀ s, I s → s.files.isDirectory l.vendor = true → Keeps I E (fun _ => True)
      ((if s.production then copyFiles else linkFile) l.vendor l.outputVendor)) :
    Keeps I E (fun _ => True) publishVendor := by
  refine .get_bind fun s kept => ?_
  rw [layout s kept]
  dsimp only
  split
  · exact .pure trivial
  · next there =>
    refine (put s kept (by simpa using there)).bind fun _ _ => ?_
    refine (keeps_logicalPathOf layout (Path.isBelow_child ..)).bind fun path _ => ?_
    exact (compiled path).bind fun _ _ => .pure trivial

/-! ## Taking sources -/

omit compiled in
/-- What is published can be told of. -/
theorem concludes_publish {path : String} {content : Bytes}
    (publish : Keeps I E (· = l.outputFile path) (publish path content)) :
    Keeps I E (fun file => ∀ other, (.ok file : Outcome) = .ok other →
      Keeps I E (fun _ => True) (logicalPathOf other)) (Build.publish path content) := by
  refine publish.mono fun file same other answer => ?_
  cases answer
  subst same
  exact (keeps_logicalPathOf layout (l.outputFile_isBelow path)).mono fun _ _ => trivial

omit compiled in
theorem takes_script (read : Keeps I E (fun _ => True) (readFile p))
    (outside : ∀ s, I s → p.isBelow l.scripts = false → E (.outside p) s)
    (publish : ∀ segments, l.scripts.append segments = p → ∀ content,
      let path := (Path.mk ("assets" :: "js" :: segments)).text
      Keeps I E (· = l.outputFile path) (publish path content))
    (made : ∀ s lookups, I s → I (s.made .asset p [] lookups)) :
    scriptCraft.Takes I E p := by
  refine read.bind fun content _ => .pure ?_
  rintro _ ⟨⟩
  refine keeps_scriptFinish layout (fun _ _ same => nomatch same) outside
    fun segments below text lookups => ?_
  exact keeps_publishText layout (List.cons_ne_nil _ _)
    (concludes_publish layout (publish segments below _)) fun s => made s lookups

omit compiled in
theorem takes_style (missing : ∀ s, I s → s.files.isFile p = false → E (.noSheet p) s)
    (outside : ∀ s, I s → p.isBelow l.styles = false → E (.outside p) s)
    (publish : ∀ segments, l.styles.append segments = p → ∀ content,
      let path := (Path.mk (sheetNames segments)).text
      Keeps I E (· = l.outputFile path) (publish path content))
    (made : ∀ s lookups, I s → I (s.made .asset p [] lookups)) :
    styleCraft.Takes I E p := by
  refine keeps_stylePrepare missing fun _ _ _ _ prepared _ => ?_
  refine keeps_styleFinish layout outside fun segments below => ?_
  exact keeps_publishText layout (sheetNames_ne_nil segments)
    (concludes_publish layout (publish segments below _)) fun s => made s _

theorem takes_image (read : Keeps I E (fun _ => True) (readFile p))
    (outside : ∀ s, I s → p.isBelow l.images = false → E (.outside p) s)
    (publish : ∀ segments, l.images.append segments = p → ∀ content,
      let path := (Path.mk ("assets" :: "img" :: segments)).text
      Keeps I E (· = l.outputFile path) (publish path content))
    (link : ∀ s, I s → ¬ s.production = true → ∀ segments, l.images.append segments = p →
      Keeps I E (fun _ => True) (linkFile p (l.output.append ("assets" :: "img" :: segments)))) :
    imageCraft.Takes I E p := by
  refine keeps_imagePrepare layout outside fun segments below => ?_
  refine keeps_imageFinish layout compiled (List.cons_ne_nil _ _) read
    (fun _ _ _ content => concludes_publish layout (publish segments below content))
    fun s kept mode => (link s kept mode segments below).mono fun _ _ => ?_
  rintro _ ⟨⟩
  exact (keeps_logicalPathOf layout (Path.isBelow_append ..)).mono fun _ _ => trivial

end Crafts

/-! ## Pages -/

section Pages

variable {Place : Path → Prop} {R : StageResult → Prop} {r : StageResult}

/-- A page that is rendered is recorded at the real path of its root. -/
theorem keeps_compilePage (place : Keeps I (fun _ _ => True) Place (realPathOf p))
    (made : ∀ q, Place q → ∀ s files lookups, I s → I (s.made .page q files lookups)) :
    Keeps I (fun _ _ => True) (fun _ => True) (compilePage p []) := by
  refine place.bind fun q placed => .get_bind fun s _ => ?_
  refine (keeps_belowOf fun _ _ _ => trivial).bind fun segments _ => ?_
  dsimp only
  split
  · exact .throw fun _ _ => trivial
  · exact .pure trivial
  · exact .pure trivial
  · exact (Keeps.modify fun t kept => made q placed t _ _ kept).bind fun _ _ => .pure trivial

/-- A page is written to its page file. -/
theorem keeps_addPage (layout : ∀ s, I s → s.layout = l)
    (compile : Keeps I (fun _ _ => True) (fun _ => True) (compilePage p []))
    (failed : ∀ f, Keeps I (fun _ _ => True) R (failWith r f))
    (write : ∀ segments, l.views.append segments = p → ∀ content,
      Keeps I (fun _ _ => True) (fun _ => True) (writeFile (l.pageFile segments) content))
    (compiled : ∀ path, Keeps I (fun _ _ => True) (fun _ => True) (noteCompiled path))
    (answer : ∀ segments, l.views.append segments = p → ∀ path,
      l.logicalPath (l.pageFile segments) = some path → R (r.addOutput path (l.pageFile segments))) :
    Keeps I (fun _ _ => True) R (addPage p r) := by
  refine compile.bind fun out _ => ?_
  cases out with
  | error f => exact failed f
  | ok page =>
    refine .get_bind fun s kept => ?_
    rw [layout s kept]
    refine (keeps_belowOf fun _ _ _ => trivial).bind fun segments found => ?_
    have below := Path.append_of_below? found
    refine (write segments below _).bind fun _ _ => ?_
    refine (keeps_logicalPathOf layout (l.pageFile_isBelow segments)).bind fun path logical => ?_
    exact (compiled path).bind fun _ _ => .pure (answer segments below path logical)

end Pages

end Folio.Build
