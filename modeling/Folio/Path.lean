import Folio.Sorting
import Folio.Text.Split

/-!
# Paths

A `Written` path keeps what a path text says: where it starts and its segments, without empty and
dot segments. A `Path` starts at the root of the file system. `..` stays in both; only `collapse`
takes it back with the segment before. `normalize` gives each path text one form.
-/

namespace Folio

open Text

/-! ## Names -/

namespace Name

/-- A name cut before its last dot, unless that dot is its first or last character. -/
def splitExtension (name : List Char) : List Char × List Char :=
  let last := (name.reverse.takeWhile (· ≠ '.')).length
  let before := name.length - last - 1
  if last = 0 ∨ last = name.length ∨ before = 0 then (name, [])
  else (name.take before, name.drop before)

/-- The name without its extension. -/
def stem (name : String) : String :=
  String.ofList (splitExtension name.toList).1

/-- The extension with its dot, empty if there is none. -/
def extension (name : String) : String :=
  String.ofList (splitExtension name.toList).2

end Name

/-! ## Written paths -/

inductive PathRoot
  | relative
  | absolute
  /-- Exactly two slashes, which are kept apart from one. -/
  | doubled
  deriving DecidableEq, Repr

def PathRoot.text : PathRoot → String
  | relative => ""
  | absolute => "/"
  | doubled => "//"

def PathRoot.ofText : List Char → PathRoot
  | '/' :: '/' :: '/' :: _ => absolute
  | '/' :: '/' :: _ => doubled
  | '/' :: _ => absolute
  | _ => relative

/-- The segments between slashes that are neither empty nor a dot. -/
def pathSegments (s : String) : List String :=
  ((splitOn '/' s.toList).map String.ofList).filter fun segment => segment ≠ "" && segment ≠ "."

def joinSegments (segments : List String) : String :=
  String.ofList (joinWith '/' (segments.map String.toList))

structure Written where
  root : PathRoot
  segments : List String
  deriving DecidableEq, Repr

namespace Written

def ofText (s : String) : Written :=
  ⟨.ofText s.toList, pathSegments s⟩

/-- The path as text; a path of nothing is a dot. -/
def text (w : Written) : String :=
  if w.root = .relative ∧ w.segments = [] then "." else w.root.text ++ joinSegments w.segments

/-- The last segment, empty if there is none. -/
def name (w : Written) : String :=
  w.segments.getLast?.getD ""

def parent (w : Written) : Written :=
  { w with segments := w.segments.dropLast }

/-- The path with another last segment. -/
def withName (w : Written) (name : String) : Written :=
  { w with segments := w.segments.dropLast ++ [name] }

end Written

/-! ## Absolute paths -/

structure Path where
  segments : List String
  deriving DecidableEq, Repr

namespace Path

def root : Path := ⟨[]⟩

def text (p : Path) : String :=
  "/" ++ joinSegments p.segments

def name (p : Path) : String :=
  p.segments.getLast?.getD ""

def parent (p : Path) : Path :=
  ⟨p.segments.dropLast⟩

def child (p : Path) (name : String) : Path :=
  ⟨p.segments ++ [name]⟩

def append (p : Path) (segments : List String) : Path :=
  ⟨p.segments ++ segments⟩

def withName (p : Path) (name : String) : Path :=
  ⟨p.segments.dropLast ++ [name]⟩

/-- The segments of a path below another; `none` if it is not below. -/
def below? (p base : Path) : Option (List String) :=
  if base.segments.isPrefixOf p.segments then some (p.segments.drop base.segments.length) else none

def isBelow (p base : Path) : Bool :=
  base.segments.isPrefixOf p.segments

/-- A path text seen from a directory. -/
def ofText (base : Path) (s : String) : Path :=
  let w := Written.ofText s
  if w.root = .relative then base.append w.segments else ⟨w.segments⟩

/-- The path that a text writes from the root on; `none` if it starts elsewhere. -/
def ofAbsolute? (s : String) : Option Path :=
  let w := Written.ofText s
  if w.root = .absolute then some ⟨w.segments⟩ else none

/-- Order by segments, and of segments by characters. -/
def isBefore (a b : Path) : Bool :=
  !decide (b.segments < a.segments)

def sort (paths : List Path) : List Path :=
  sortBy isBefore paths

/-- One more segment after collapsed ones, which come last first. -/
def collapseOne (done : List String) (segment : String) : List String :=
  if segment = ".." then done.tail else segment :: done

/-- The segments with each `..` taken back together with the segment before. -/
def collapse (segments : List String) : List String :=
  (segments.foldl collapseOne []).reverse

theorem below?_append (p : Path) (segments : List String) :
    (p.append segments).below? p = some segments := by
  simp [below?, append]

theorem append_of_below? {p base : Path} {segments : List String}
    (h : p.below? base = some segments) : base.append segments = p := by
  unfold below? at h
  split at h
  · next hp =>
    obtain ⟨rest, hrest⟩ := List.isPrefixOf_iff_prefix.1 hp
    injection h with h
    cases p
    simp_all [append]
    rw [← h, ← hrest]
    simp
  · simp at h

end Path

/-- The one form of a path text: absolute from `base` on and without empty, dot and `..` segments.
Two leading slashes stay two. -/
def normalize (base : Path) (s : String) : String :=
  let w := Written.ofText s
  let root := if w.root = .doubled then "//" else "/"
  let start := if w.root = .relative then base.segments else []
  root ++ joinSegments (Path.collapse (start ++ w.segments))

end Folio
