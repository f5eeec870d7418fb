import Folio.Build.Asset
import Folio.Build.Page

/-!
# Full builds

A full build starts with an empty output and a new generation. Pages come last, so that each asset
that they name is published.
-/

namespace Folio.Build

/-- The state without routes, fingerprints and dependencies. -/
def State.cleaned (s : State) : State :=
  { s with routes := [], dependencies := .empty, store := s.store.clear, journal := [] }

/-- Empties the output and forgets what was built. -/
def clean : Build Unit := do
  resetDirectory (← get).layout.output
  modify (·.cleaned)

/-- Renders all pages of a site. -/
def compileAllPages : Build StageResult := do
  compilePages (← get).roots .empty

/-- Builds the whole site. -/
def buildProject (schedule : Schedule) : Build StageResult := do
  clean
  let _ ← rebuildRoutes
  let images ← publishImages none
  let vendor ← publishVendor
  let assets ← compileAssets schedule
  let pages ← compileAllPages
  let report := ((images.append vendor).append assets).append pages
  if !report.ok then note s!"Build finished with {report.failures.length} error(s)"
  return report

end Folio.Build
