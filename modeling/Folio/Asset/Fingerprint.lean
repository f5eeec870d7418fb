import Folio.Asset.Name
import Folio.Digest
import Folio.Path
import Folio.Text.Blank
import Folio.Table

/-!
# Fingerprints

In production an asset is published under a name that holds a digest of its content. The store
records for each logical path the physical path of the last published content; `resolve` answers
the recorded path, or the logical path itself where there is none.
-/

namespace Folio.Asset

open Text

/-! ## Names with a digest -/

/-- A path text cut after its last slash. -/
def splitLast (path : List Char) : List Char × List Char :=
  let name := (path.reverse.takeWhile (· ≠ '/')).reverse
  (path.take (path.length - name.length), name)

/-- The directory of a path without slashes at its end, unless it is made of slashes alone. -/
def directoryOf (head : List Char) : List Char :=
  if head.all (· == '/') then head else trimEnd (· == '/') head

/-- A name cut before its last dot; dots at its start do not count. -/
def splitSuffix (name : List Char) : List Char × List Char :=
  let dots := (name.takeWhile (· == '.')).length
  let rest := name.drop dots
  if rest.contains '.' then
    let cut := name.length - (rest.reverse.takeWhile (· ≠ '.')).length - 1
    (name.take cut, name.drop cut)
  else (name, [])

/-- A logical path with a digest before its extension. -/
def fingerprinted (path digest : String) : String :=
  let (head, name) := splitLast path.toList
  let (stem, extension) := splitSuffix name
  let directory := directoryOf head
  let slash := if directory = [] ∨ directory.getLast? = some '/' then [] else ['/']
  String.ofList (directory ++ slash ++ stem ++ '-' :: digest.toList ++ extension)

/-- How many hexadecimal digits of a digest a name holds. -/
def digestLength : Int := 10

/-! ## The store -/

/-- The published paths of one generation of output. -/
structure Store where
  /-- Whether names hold a digest. -/
  enabled : Bool
  records : List (String × String)
  deriving DecidableEq, Repr

namespace Store

def empty (enabled : Bool) : Store :=
  ⟨enabled, []⟩

/-- The path under which some content of a logical path is published. -/
def physical (s : Store) (path : String) (content : Bytes) : String :=
  if s.enabled then fingerprinted path (Digest.ofContent (some digestLength) content) else path

/-- Records the publication of some content. -/
def publish (s : Store) (path : String) (content : Bytes) : Store :=
  if s.enabled then { s with records := Table.put path (s.physical path content) s.records } else s

def get? (s : Store) (path : String) : Option String :=
  s.records.lookup path

/-- Where a logical path is published. -/
def resolve (s : Store) (path : String) : String :=
  (s.get? path).getD path

def clear (s : Store) : Store :=
  { s with records := [] }

end Store

end Folio.Asset
