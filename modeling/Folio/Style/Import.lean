import Folio.FileTree.Operation
import Folio.Style.Indented
import Folio.Style.Sheet

/-!
# Imports of stylesheets

A sheet is imported by a name that stands for one of several files beside the importing one, or
else below the directory of styles. `load` reads a sheet with all that it imports, into one row of
statements that know their files.
-/

namespace Folio.Style

open Text

/-! ## Files of a name -/

def importExtensions : List String :=
  [".scss", ".sass", ".css"]

/-- The directories of a name and the rest of it. -/
def splitName (name : String) : List String × String :=
  match (splitOn '/' name.toList).reverse with
  | last :: directories =>
    ((directories.reverse.map String.ofList).filter fun d => d ≠ "" && d ≠ ".", String.ofList last)
  | [] => ([], "")

/-- A directory seen from another one; it is left by `..` in front before any link is followed. -/
def enterDirectory (directory : Path) : List String → Path
  | ".." :: rest => enterDirectory directory.parent rest
  | segments => directory.append segments

/-- The file names that a name may mean, in order. -/
def candidateNames (name : String) : List String :=
  [name, "_" ++ name] ++ importExtensions.map (fun x => "_" ++ name ++ x)
    ++ importExtensions.map (name ++ ·)

/-- The names of the file that stands for its directory, in order. -/
def indexNames : List String :=
  importExtensions.map ("_index" ++ ·) ++ importExtensions.map ("index" ++ ·)

def hasExtension (name : String) : Bool :=
  importExtensions.any fun x => x.toList.isSuffixOf name.toList

/-- The files that a name means in a directory, each with the name that it was found by. -/
def filesIn (files : FileTree) (directory : Path) (name : String) : List (String × Path) :=
  let (outer, last) := splitName name
  let start := if begins "/" name.toList then Path.root else directory
  let inside := enterDirectory start outer
  let shown (file : String) := joinSegments (outer ++ [file])
  let named := (candidateNames last).map fun file => (shown file, inside.child file)
  let found := named.filter (files.isFile ·.2)
  if !found.isEmpty || hasExtension last then found
  else
    let indexed := indexNames.map fun file =>
      let segments := if last = "" then [file] else [last, file]
      (joinSegments (outer ++ segments), inside.append segments)
    indexed.filter (files.isFile ·.2)

/-- The file that an import means, beside the importing file or below the root of styles. -/
def findImport (files : FileTree) (root importer : Path) (name : String) : Except Problem Path :=
  let beside := filesIn files importer.parent name
  match if beside.isEmpty then filesIn files root name else beside with
  | [] => .error (.importNotFound name)
  | [(_, p)] => .ok p
  | found => .error (.importUnclear name (found.map (·.1)))

/-! ## Reading files -/

/-- A defect with the file that it lies in. -/
structure Located where
  defect : Defect
  file : Path
  deriving DecidableEq, Repr

/-- The location of a byte. -/
def locationOf (bytes : Bytes) (position : Nat) : Location :=
  let before := bytes.take position
  let line := before.reverse.takeWhile (· ≠ 10)
  ⟨before.count 10 + 1, (line.filter fun b => b.toNat / 64 ≠ 2).length + 1⟩

/-- The text of a sheet, which ends before a null character. -/
def readSheet (files : FileTree) (p : Path) : Except Defect String :=
  match (FileTree.Op.content p).run files with
  | .error _ _ => .error ⟨.notText, .first⟩
  | .ok content _ =>
    let content := content.takeWhile (· ≠ 0)
    match decode content with
    | .error f => .error ⟨.notText, locationOf content f.start⟩
    | .ok s =>
      .ok (if Name.extension p.name.toLower = ".sass" then unfolded s else s)

/-- A statement and the file that holds it. -/
abbrev Sourced := Path × Statement

/-- How deeply imports may lie inside each other. -/
def maxImports : Nat := 500

/-- The statements of a file, with those of the sheets that it imports in their places, up to the
first defect. `enter` answers those of an imported file. -/
def expand (files : FileTree) (root file : Path) (enter : Path → List Sourced × Option Located) :
    List Statement → List Sourced × Option Located
  | [] => ([], none)
  | .import_ (.sheet name) here :: rest =>
    match findImport files root file name with
    | .error p => ([], some ⟨⟨p, here⟩, file⟩)
    | .ok imported =>
      match enter imported with
      | (inner, some ⟨⟨.importLoop, _⟩, _⟩) => (inner, some ⟨⟨.importLoop, here⟩, file⟩)
      | (inner, some d) => (inner, some d)
      | (inner, none) =>
        let (more, d) := expand files root file enter rest
        (inner ++ more, d)
  | s :: rest =>
    let (more, d) := expand files root file enter rest
    ((file, s) :: more, d)

/-- The statements of a file that lies inside others, with those of the sheets that it imports. A
file inside itself is a defect of the import that led there. -/
def loadWithin (files : FileTree) (root : Path) :
    Nat → List Path → Path → List Sourced × Option Located
  | 0, _, file => ([], some ⟨⟨.importLoop, .first⟩, file⟩)
  | room + 1, outer, file =>
    if outer.contains file then ([], some ⟨⟨.importLoop, .first⟩, file⟩)
    else
      match readSheet files file with
      | .error d => ([], some ⟨d, file⟩)
      | .ok source =>
        let (statements, flaw) := parse source
        let (found, d) := expand files root file (loadWithin files root room (file :: outer)) statements
        (found, d.or (flaw.map (⟨·, file⟩)))

/-- The statements of a file with those of all that it imports. -/
def load (files : FileTree) (root file : Path) : Except Located (List Sourced) :=
  match loadWithin files root maxImports [] file with
  | (_, some d) => .error d
  | (found, none) => .ok found

end Folio.Style
