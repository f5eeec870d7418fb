import Folio.Layout
import Folio.Proofs.Path

/-!
# Where output lies

An output file is found under its public path (`outputFile_text`, `logicalPath_append`), and all that
a build writes lies below the output. The directories of the sources have paths in normal form if the
one that holds them has.
-/

namespace Folio

theorem pathSegments_trimStart (s : String) :
    pathSegments (String.ofList (Text.trimStart (· == '/') s.toList)) = pathSegments s := by
  have trimmed (characters : List Char) :
      pathSegments (String.ofList (Text.trimStart (· == '/') characters)) =
        pathSegments (String.ofList characters) := by
    induction characters with
    | nil => rfl
    | cons c characters ih =>
      by_cases slash : c = '/'
      · subst slash
        have first : pathSegments (String.ofList ('/' :: characters)) =
            pathSegments (String.ofList characters) := by
          simp [pathSegments, Text.splitOn]
        exact ih.trans first.symm
      · have kept : Text.trimStart (· == '/') (c :: characters) = c :: characters :=
          List.dropWhile_cons_of_neg (by simpa using slash)
        rw [kept]
  rw [trimmed, String.ofList_toList]

namespace Layout

theorem outputFile_text (l : Layout) {p : Path} (plain : ∀ s ∈ p.segments, IsSegment s) :
    l.outputFile p.text = l.output.append p.segments := by
  rw [outputFile, pathSegments_trimStart, Path.pathSegments_text plain]

/-- The public path of an output file is the text of its path seen from the output. -/
theorem logicalPath_append (l : Layout) {names : List String} (below : names ≠ []) :
    l.logicalPath (l.output.append names) = some (Path.mk names).text := by
  rw [logicalPath, Path.below?_append, Option.map_some, Written.text, if_neg fun h => below h.2]
  rfl

section Sources

variable {l : Layout} (source : l.source.IsProper)

include source

theorem views_isProper : l.views.IsProper :=
  source.child (by decide)

theorem assets_isProper : l.assets.IsProper :=
  source.child (by decide)

theorem scripts_isProper : l.scripts.IsProper :=
  (assets_isProper source).child (by decide)

theorem styles_isProper : l.styles.IsProper :=
  (assets_isProper source).child (by decide)

theorem images_isProper : l.images.IsProper :=
  (assets_isProper source).child (by decide)

end Sources

theorem outputFile_isBelow (l : Layout) (path : String) :
    (l.outputFile path).isBelow l.output = true :=
  Path.isBelow_append ..

theorem outputScripts_append (l : Layout) (names : List String) :
    l.outputScripts.append names = l.output.append ("assets" :: "js" :: names) := by
  simp [outputScripts, outputAssets, Path.child_append]

theorem outputStyles_append (l : Layout) (names : List String) :
    l.outputStyles.append names = l.output.append ("assets" :: "css" :: names) := by
  simp [outputStyles, outputAssets, Path.child_append]

theorem outputImages_append (l : Layout) (names : List String) :
    l.outputImages.append names = l.output.append ("assets" :: "img" :: names) := by
  simp [outputImages, outputAssets, Path.child_append]

theorem pageFile_isBelow (l : Layout) (template : List String) :
    (l.pageFile template).isBelow l.output = true :=
  Path.isBelow_trans (Path.isBelow_child ..) (Path.isBelow_append ..)

end Layout

end Folio
