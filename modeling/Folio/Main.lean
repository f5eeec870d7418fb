import Folio.CommandLine.Run

/-!
# The program

The files of the site are named on standard input, one path a line, seen from the directory in
which the program is called; links among them are read through. The program runs on these files,
and then what it made is written back: a link is written as what it leads to.
-/

namespace Folio.CommandLine

open Text

/-- The site that some names on standard input make up. -/
def readSite (directory : Path) (names : List String) : IO FileTree := do
  let mut files := FileTree.empty.withParents (directory.child ".")
  for name in names do
    if name ≠ "" then
      let content ← IO.FS.readBinFile name
      files := files.place (Path.ofText directory name) (some (.file content.toList))
  return files

def writeBytes (p : Path) (content : Bytes) : IO Unit := do
  IO.FS.createDirAll p.parent.text
  IO.FS.writeBinFile p.text (ByteArray.mk content.toArray)

/-- Writes what lies at a path once links are followed. -/
def writeEntry (files : FileTree) (p : Path) : IO Unit := do
  match files.target? p with
  | some (.file content) => writeBytes p content
  | some .directory =>
    IO.FS.createDirAll p.text
    for q in files.filesBelow p do
      if let some (.file content) := files.target? q then writeBytes q content
  | _ => return

/-- Writes back how a run changed the files below a directory. -/
def writeChanges (before after : FileTree) (directory : Path) : IO Unit := do
  let changes := FileTree.changes before after directory
  for (segments, entry) in changes do
    if entry.isNone && (before.get? (directory.append segments)).any (· ≠ .directory) then
      IO.FS.removeFile (directory.append segments).text
  for (segments, entry) in changes do
    if entry.isSome then writeEntry after (directory.append segments)

def printLine (line : Line) : IO Unit := do
  let stream ← match line with
    | .output _ => IO.getStdout
    | _ => IO.getStderr
  stream.putStrLn (if ← stream.isTty then line.styledText else line.plainText)

/-- The lines of a stream up to its end. -/
partial def readAllLines (stream : IO.FS.Stream) (lines : List String) : IO (List String) := do
  let line ← stream.getLine
  if line.isEmpty then return lines.reverse
  readAllLines stream (String.ofList (trimEnd (· == '\n') line.toList) :: lines)

end Folio.CommandLine

open Folio Folio.CommandLine in
def main (arguments : List String) : IO UInt32 := do
  let directory := Path.ofText Path.root (toString (← IO.FS.realPath "."))
  let names ← readAllLines (← IO.getStdin) []
  let before ← readSite directory names
  let caller : Caller := ⟨directory, ← IO.getEnv Environment.variableName⟩
  let outcome := run before caller arguments
  outcome.screen.lines.forM printLine
  if let some (.abort abort) := outcome.stopped then
    IO.eprintln abort.message
  writeChanges before outcome.screen.files directory
  return UInt32.ofNat outcome.code
