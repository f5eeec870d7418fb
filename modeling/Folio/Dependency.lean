import Folio.Path
import Folio.Table

/-!
# Dependencies

The index of what was read to make each output. A root is a source with output of its own;
`record` replaces all its dependencies at once. The index is kept in both directions, from roots to
dependencies and from dependencies to roots. Keys are path texts in normal form.
-/

namespace Folio

structure Dependencies where
  /-- The roots that depend on each file. -/
  dependents : List (String × List String)
  /-- What each root depends on. -/
  edges : List (String × List String)
  deriving DecidableEq, Repr

namespace Dependencies

def empty : Dependencies :=
  ⟨[], []⟩

/-- The elements of a list, each once. -/
def distinct (names : List String) : List String :=
  names.foldr (fun n rest => if rest.contains n then rest else n :: rest) []

/-- Takes a root off the dependents of a file; a file without dependents is no key. -/
def detach (root : String) (dependents : List (String × List String)) (file : String) :
    List (String × List String) :=
  match dependents.lookup file with
  | none => dependents
  | some roots =>
    match roots.filter (· ≠ root) with
    | [] => Table.erase file dependents
    | rest => Table.put file rest dependents

/-- Adds a root to the dependents of a file. -/
def attach (root : String) (dependents : List (String × List String)) (file : String) :
    List (String × List String) :=
  let roots := (dependents.lookup file).getD []
  Table.put file (if roots.contains root then roots else roots ++ [root]) dependents

/-- Replaces the dependencies of a root; all names are in normal form. -/
def replace (d : Dependencies) (root : String) (files : List String) : Dependencies :=
  let old := (d.edges.lookup root).getD []
  let new := distinct (files.filter (· ≠ root))
  let dependents := (old.filter (!new.contains ·)).foldl (detach root) d.dependents
  let dependents := (new.filter (!old.contains ·)).foldl (attach root) dependents
  ⟨dependents, Table.put root new d.edges⟩

/-- Records what a root depends on. -/
def record (base : Path) (d : Dependencies) (root : String) (files : List String) : Dependencies :=
  d.replace (normalize base root) (files.map (normalize base))

/-- Drops a root with its dependencies. -/
def forget (base : Path) (d : Dependencies) (root : String) : Dependencies :=
  let d := d.record base root []
  { d with edges := Table.erase (normalize base root) d.edges }

def dependentsOf (base : Path) (d : Dependencies) (file : String) : List String :=
  (d.dependents.lookup (normalize base file)).getD []

def dependenciesOf (base : Path) (d : Dependencies) (root : String) : List String :=
  (d.edges.lookup (normalize base root)).getD []

/-- Whether a root is recorded. -/
def contains (base : Path) (d : Dependencies) (root : String) : Bool :=
  (d.edges.lookup (normalize base root)).isSome

/-- The number of files that something depends on. -/
def size (d : Dependencies) : Nat :=
  d.dependents.length

end Dependencies

end Folio
