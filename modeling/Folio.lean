import Folio.Build.Rebuild
import Folio.Main
import Folio.Preview
import Folio.Proofs.Dependency
import Folio.Proofs.Script.Cover
import Folio.Proofs.Script.Effect
import Folio.Proofs.Script.Placement
import Folio.Proofs.Script.Splice
import Folio.Proofs.Script.Expression
import Folio.Proofs.Script.Reading
import Folio.Proofs.Script.Passage
import Folio.Proofs.Script.Keys
import Folio.Proofs.Script.Lookahead
import Folio.Proofs.Script.Literal
import Folio.Proofs.Script.Rescan
import Folio.Proofs.Script.Weave
import Folio.Proofs.Script.Survivors
import Folio.Proofs.Script.Render
import Folio.Proofs.Script.Acceptance
import Folio.Proofs.Build.Affected
import Folio.Proofs.Build.Converge
import Folio.Proofs.Build.Confine
import Folio.Proofs.Build.Failing
import Folio.Proofs.Build.Invariant
import Folio.Proofs.Template.Crash
import Folio.Proofs.Build.Influence
import Folio.Proofs.Script.Binding
import Folio.Proofs.Build.Publish
import Folio.Proofs.FileTree.Fence
import Folio.Proofs.FileTree.Atomic
import Folio.Proofs.Build.Sources
import Folio.Proofs.Build.Batch
import Folio.Proofs.Build.Helper
import Folio.Proofs.Build.Serve
import Folio.Proofs.Build.Reference
import Folio.Proofs.Build.Forget
import Folio.Proofs.Build.Account
import Folio.Proofs.Build.Retry
import Folio.Proofs.Build.Root
import Folio.Proofs.Build.Cascade
import Folio.Proofs.Script.Argument
import Folio.Proofs.Script.ReadBack
import Folio.Proofs.Build.Identity
import Folio.Proofs.Build.Unwritten
import Folio.Proofs.Asset.Parts
import Folio.Proofs.Script.Again
import Folio.Proofs.Build.Enumerate
import Folio.Proofs.Override
import Folio.Proofs.Normal
import Folio.Proofs.Build.Lane
import Folio.Proofs.Build.Logical
import Folio.Proofs.Location
import Folio.Proofs.Script.Located
