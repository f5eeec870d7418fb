import Folio.FileTree.Listing
import Folio.Text.Printable

/-!
# Operations on files

An operation changes a file tree and may fail; a failed one keeps what it has already done.
`write` puts a file in place in one step by way of a temporary file beside it; `link` and
`resetDirectory` replace whatever is in their place.
-/

namespace Folio

open Text

namespace FileProblem

/-- The number by which systems know a problem, where it has one. -/
def number : FileProblem → Option Nat
  | missing => some 2
  | busy => some 16
  | alreadyExists => some 17
  | notDirectory => some 20
  | isDirectory => some 21
  | nameTooLong => some 36
  | tooManyLinks => some 40
  | _ => none

def message : FileProblem → String
  | missing => "No such file or directory"
  | isDirectory => "Is a directory"
  | notDirectory => "Not a directory"
  | alreadyExists => "File exists"
  | tooManyLinks => "Too many levels of symbolic links"
  | nameTooLong => "File name too long"
  | busy => "Device or resource busy"
  | unusablePath => "embedded null byte"
  | sameFile source destination => s!"{source} and {destination} are the same file"
  | partsNotCopied parts => "[" ++ ", ".intercalate parts ++ "]"

/-- The message with the number and the path that it concerns. -/
def fullMessage (problem : FileProblem) (p : Path) : String :=
  match problem.number with
  | some n => s!"[Errno {n}] {problem.message}: {quoteText p.text}"
  | none => problem.message

end FileProblem

namespace FileTree

abbrev Op := EStateM FileProblem FileTree

namespace Op

/-- The place of a path found in the current tree. -/
def find (search : FileTree → Except FileProblem Path) : Op Path := fun t =>
  match search t with
  | .ok p => .ok p t
  | .error problem => .error problem t

/-- Tries an operation and answers its problem instead of failing; what it did is kept. -/
def attempt {α : Type} (x : Op α) : Op (Except FileProblem α) := fun t =>
  match x t with
  | .ok a t => .ok (.ok a) t
  | .error problem t => .ok (.error problem) t

def content (p : Path) : Op Bytes := do
  let q ← find (·.locateTarget p)
  match (← get).get? q with
  | some (.file content) => return content
  | some _ => throw .isDirectory
  | none => throw .missing

/-- Writes a file in place, through links. -/
def writeFile (p : Path) (content : Bytes) : Op Unit := do
  let q ← find (·.locateTarget p)
  if (← get).get? q = some .directory then throw .isDirectory
  modify (·.put q (.file content))

def makeDirectory (p : Path) : Op Unit := do
  let q ← find (·.locate p)
  if ((← get).get? q).isSome then throw .alreadyExists
  modify (·.put q .directory)

/-- Makes a directory unless there is one. -/
def ensureDirectory (p : Path) : Op Unit := do
  match ← attempt (makeDirectory p) with
  | .ok () => return
  | .error problem => if !(← get).isDirectory p then throw problem

/-- Makes a directory and those above it, given as the segments from the last to the first. -/
def ensureDirectoriesFrom : List String → Op Unit
  | [] => return
  | name :: above => do
    let p : Path := ⟨(name :: above).reverse⟩
    match ← attempt (makeDirectory p) with
    | .ok () => return
    | .error .missing =>
      ensureDirectoriesFrom above
      ensureDirectory p
    | .error problem => if !(← get).isDirectory p then throw problem

def ensureDirectories (p : Path) : Op Unit :=
  ensureDirectoriesFrom p.segments.reverse

/-- Removes a file or link. -/
def unlink (p : Path) : Op Unit := do
  let q ← find (·.locate p)
  match (← get).get? q with
  | none => throw .missing
  | some .directory => throw .isDirectory
  | some _ => modify (·.erase q)

/-- Moves a file or link over another. -/
def rename (source destination : Path) : Op Unit := do
  let p ← find (·.locate source)
  let q ← find (·.locate destination)
  if destination.name = ".." then throw .busy
  match (← get).get? p with
  | none => throw .missing
  | some e =>
    if (← get).get? q = some .directory then throw .isDirectory
    modify fun t => (t.erase p).put q e

/-- Removes a directory with all below it. -/
def removeTree (p : Path) : Op Unit := do
  let q ← find (·.locate p)
  modify (·.prune q)

/-! ## The operations of a build -/

/-- The name of the file beside `p` that is written first. -/
def temporary (p : Path) : Path :=
  p.withName ("." ++ p.name ++ ".tmp")

/-- Puts a file with some content at a path, with the directories above it. -/
def write (p : Path) (content : Bytes) : Op Unit := do
  ensureDirectories p.parent
  if p = Path.root then throw .unusablePath
  writeFile (temporary p) content
  rename (temporary p) p

/-- Removes a file or link if there is one. -/
def remove (p : Path) : Op Unit := do
  match ← attempt (unlink p) with
  | .ok () | .error .missing => return
  | .error problem => throw problem

/-- Removes what is at a path, whatever it is. -/
def clear (p : Path) : Op Unit := do
  let t ← get
  if t.isLink p || t.isFile p then unlink p
  else if t.pathExists p then removeTree p

/-- The way from a directory to a path in normal form. -/
def relativeText (target directory : Path) : String :=
  let target := Path.collapse target.segments
  let directory := Path.collapse directory.segments
  let shared := ((target.zip directory).takeWhile fun p => p.1 == p.2).length
  Written.text ⟨.relative,
    List.replicate (directory.length - shared) ".." ++ target.drop shared⟩

/-- Puts a relative link to `target` at a path in place of what was there. -/
def link (target p : Path) : Op Unit := do
  ensureDirectories p.parent
  clear p
  if (← get).locateTarget target matches .error .nameTooLong then throw .nameTooLong
  let q ← find (·.locate p)
  modify (·.put q (.link (relativeText target p.parent)))

/-- How a copy calls its files: by the paths that it was given, or as entries of a directory. -/
inductive Naming
  | paths
  | entries
  deriving DecidableEq, Repr

def Naming.source : Naming → Path → String
  | paths, p => s!"PosixPath({quoteText p.text})"
  | entries, p => s!"<DirEntry {quoteText p.name}>"

def Naming.destination : Naming → Path → String
  | paths, p => s!"PosixPath({quoteText p.text})"
  | entries, p => quoteText p.text

/-- Copies a file; into a directory under its own name. -/
def copyFile (naming : Naming) (source destination : Path) : Op Unit := do
  let t ← get
  let inside := t.isDirectory destination
  let named := if inside then Naming.entries else naming
  let destination := if inside then destination.child source.name else destination
  match t.locateTarget source, t.locateTarget destination with
  | .ok p, .ok q =>
    if p = q ∧ (t.get? p).isSome then
      throw (.sameFile (naming.source source) (named.destination destination))
  | _, _ => pure ()
  let bytes ← content source
  writeFile destination bytes

/-- What is said of an entry of a directory whose copy failed: only what is in the way lies at the
destination. A file copied onto itself is told of letter by letter. -/
def failedParts (source destination : Path) : FileProblem → List String
  | .partsNotCopied parts => parts
  | .sameFile a b => (FileProblem.sameFile a b).message.toList.map quoteChar
  | problem =>
    let reason := problem.fullMessage (if problem = .alreadyExists then destination else source)
    [s!"({quoteText source.text}, {quoteText destination.text}, {quoteText reason})"]

/-- Copies a directory into another, which is made if need be; links are followed. All that can be
copied is copied. The depth bounds how far links are followed. -/
def copyTree (depth : Nat) (source destination : Path) : Op Unit := do
  match depth with
  | 0 => throw .tooManyLinks
  | depth + 1 =>
    let place ← find (·.locateTarget source)
    let names := (← get).names place
    ensureDirectory destination
    let failed ← names.foldlM (fun failed name => do
      let from_ := source.child name
      let into := destination.child name
      let done ← attempt (if (← get).isDirectory from_ then copyTree depth from_ into
        else copyFile .entries from_ into)
      match done with
      | .ok () => return failed
      | .error problem => return failed ++ failedParts from_ into problem) []
    if failed ≠ [] then throw (.partsNotCopied failed)

/-- Copies a file or directory to a path, with the directories above it. -/
def copy (source destination : Path) : Op Unit := do
  ensureDirectories destination.parent
  let t ← get
  if t.isDirectory source then copyTree ((maxLinks + 1) * (t.entries.length + 1)) source destination
  else copyFile .paths source destination

/-- Leaves an empty directory at a path. -/
def resetDirectory (p : Path) : Op Unit := do
  clear p
  match ← attempt (makeDirectory p) with
  | .ok () => return
  | .error .missing =>
    ensureDirectories p.parent
    makeDirectory p
  | .error problem => throw problem

end Op

end FileTree

end Folio
