/-!
# The journal of a build

What was published and made since the last full build, the newest first. The journal decides
nothing; it says which path stands in each output for each path that the output's source looked up.
-/

namespace Folio.Build

/-- What a source is made into. -/
inductive Kind
  | asset
  | page
  deriving DecidableEq, Repr

/-- Looked-up paths, each with the path that stands for it in the output. -/
abbrev Names := List (String × String)

inductive Event
  /-- A public path was given content under a physical path. -/
  | published (path physical : String)
  /-- A source, by its name in the dependency index, was made with some names in its output. -/
  | made (kind : Kind) (source : String) (names : Names)
  deriving DecidableEq, Repr

abbrev Journal := List Event

namespace Journal

/-- Where a public path was last published; the path itself if it never was. -/
def resolve : Journal → String → String
  | [], path => path
  | .published p physical :: rest, path => if p = path then physical else resolve rest path
  | .made .. :: rest, path => resolve rest path

/-- What a source was last made into, and with which names. -/
def last? : Journal → String → Option (Kind × Names)
  | [], _ => none
  | .published .. :: rest, source => last? rest source
  | .made kind s names :: rest, source => if s = source then some (kind, names) else last? rest source

end Journal

end Folio.Build
