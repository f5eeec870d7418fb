import Folio.Path
import Folio.Table
import Folio.Text.Utf8

/-!
# File trees

A file tree gives each path what lies there: a file, a symbolic link or a directory; the root is
always a directory. `locate` follows a path through links to the place that it names, `realPath`
does so as far as the tree goes and through any number of links.
-/

namespace Folio

inductive Entry
  | file (content : Bytes)
  | link (target : String)
  | directory
  deriving DecidableEq, Repr

def Entry.isLink : Entry → Bool
  | link _ => true
  | _ => false

/-- Why an operation on files fails. -/
inductive FileProblem
  | missing
  | isDirectory
  | notDirectory
  | alreadyExists
  | tooManyLinks
  | nameTooLong
  /-- A file is moved to the directory above. -/
  | busy
  /-- A path that no file can have: one that holds a null character, or without a name. -/
  | unusablePath
  /-- A copy of a file onto itself, with the names by which the copy calls the two. -/
  | sameFile (source destination : String)
  /-- What is said of the parts of a directory that could not be copied. -/
  | partsNotCopied (parts : List String)
  deriving DecidableEq, Repr

structure FileTree where
  entries : List (Path × Entry)
  deriving DecidableEq, Repr

namespace FileTree

def empty : FileTree := ⟨[]⟩

/-- What lies at a path itself; links are not followed. -/
def get? (t : FileTree) (p : Path) : Option Entry :=
  if p = Path.root then some .directory else t.entries.lookup p

def put (t : FileTree) (p : Path) (e : Entry) : FileTree :=
  ⟨Table.put p e t.entries⟩

def erase (t : FileTree) (p : Path) : FileTree :=
  ⟨Table.erase p t.entries⟩

/-- The tree without a path and all below it. -/
def prune (t : FileTree) (p : Path) : FileTree :=
  ⟨t.entries.filter (!·.1.isBelow p)⟩

theorem get?_put_self {t : FileTree} {p : Path} (h : p ≠ Path.root) (e : Entry) :
    (t.put p e).get? p = some e := by
  simp [get?, put, h, Table.lookup_put_self]

theorem get?_put_of_ne {t : FileTree} {p q : Path} (h : q ≠ p) (e : Entry) :
    (t.put p e).get? q = t.get? q := by
  simp [get?, put, Table.lookup_put_of_ne h]

/-! ## Following paths -/

/-- How many links a path may pass. -/
def maxLinks : Nat := 40

/-- How many bytes the name of a file may have. -/
def maxName : Nat := 255

/-- Whether no file can have a name for its length. -/
def isTooLong (name : String) : Bool :=
  maxName < (Text.encode name).length

def holdsNull (p : Path) : Bool :=
  p.segments.any (·.toList.contains '\x00')

/-- Where a link's target starts, seen from the directory that holds the link. -/
def linkStart (directory : Path) (target : Written) : Path :=
  if target.root = .relative then directory else Path.root

/-- The place that some segments lead to from a directory. The place itself may be empty but its
directory exists. A link in the last place is followed only if asked. `follow` goes on from where a
link leads; it is missing where no more links may be passed. -/
def walkOn (t : FileTree) (followLast : Bool)
    (follow : Option (Path → List String → Except FileProblem Path)) (here : Path) :
    List String → Except FileProblem Path
  | [] => .ok here
  | name :: rest =>
    if name = ".." then t.walkOn followLast follow here.parent rest
    else if isTooLong name then .error .nameTooLong
    else
      match t.get? (here.child name) with
      | none => if rest = [] then .ok (here.child name) else .error .missing
      | some .directory => t.walkOn followLast follow (here.child name) rest
      | some (.file _) => if rest = [] then .ok (here.child name) else .error .notDirectory
      | some (.link target) =>
        if rest = [] ∧ !followLast then .ok (here.child name)
        else
          match follow with
          | none => .error .tooManyLinks
          | some follow =>
            let w := Written.ofText target
            follow (linkStart here w) (w.segments ++ rest)

/-- The place that some segments lead to from a directory, past so many links at most. -/
def walk (t : FileTree) (followLast : Bool) :
    Nat → Path → List String → Except FileProblem Path
  | 0 => t.walkOn followLast none
  | links + 1 => t.walkOn followLast (some (t.walk followLast links))

/-- The place of a path, with a link in the last place left alone. -/
def locate (t : FileTree) (p : Path) : Except FileProblem Path :=
  if holdsNull p then .error .unusablePath else t.walk false maxLinks Path.root p.segments

/-- The place of a path with all links followed. -/
def locateTarget (t : FileTree) (p : Path) : Except FileProblem Path :=
  if holdsNull p then .error .unusablePath else t.walk true maxLinks Path.root p.segments

/-- What a path names once links are followed. -/
def target? (t : FileTree) (p : Path) : Option Entry :=
  match t.locateTarget p with
  | .ok q => t.get? q
  | .error _ => none

def isFile (t : FileTree) (p : Path) : Bool :=
  match t.target? p with
  | some (.file _) => true
  | _ => false

def isDirectory (t : FileTree) (p : Path) : Bool :=
  t.target? p == some .directory

def pathExists (t : FileTree) (p : Path) : Bool :=
  (t.target? p).isSome

def isLink (t : FileTree) (p : Path) : Bool :=
  match t.locate p with
  | .ok q => (t.get? q).any Entry.isLink
  | .error _ => false

/-- What is left to do on the way along a path. -/
inductive Step
  | enter (name : String)
  /-- The link at a path has been followed to its end. -/
  | leave (link : Path)
  deriving DecidableEq, Repr

def Step.name? : Step → Option String
  | enter name => some name
  | leave _ => none

/-- The links met along a path with the paths that they lead to, nothing for those that are still
being followed. -/
abbrev Ends := List (Path × Option Path)

/-- The path that some steps lead to with links followed where there are any; names that lead
nowhere are kept. A link that is still being followed, met again, is kept with all that comes after
it. `follow` goes on into a link; it is missing where no more links are followed. -/
def resolveOn (t : FileTree) (follow : Option (Ends → Path → List Step → Path)) (ends : Ends)
    (here : Path) : List Step → Path
  | [] => here
  | .leave link :: rest => t.resolveOn follow ((link, some here) :: ends) here rest
  | .enter name :: rest =>
    if name = ".." then t.resolveOn follow ends here.parent rest
    else
      let p := here.child name
      match t.get? p with
      | some (.link target) =>
        match ends.lookup p with
        | some (some q) => t.resolveOn follow ends q rest
        | some none => p.append (rest.filterMap Step.name?)
        | none =>
          match follow with
          | none => p.append (rest.filterMap Step.name?)
          | some follow =>
            let w := Written.ofText target
            follow ((p, none) :: ends) (linkStart here w)
              (w.segments.map .enter ++ .leave p :: rest)
      | _ => t.resolveOn follow ends p rest

/-- The path that some steps lead to, with so many links followed at most. -/
def resolveFrom (t : FileTree) : Nat → Ends → Path → List Step → Path
  | 0 => t.resolveOn none
  | links + 1 => t.resolveOn (some (t.resolveFrom links))

/-- A path without links and `..`; a link that leads to itself is kept. -/
def resolve (t : FileTree) (p : Path) : Path :=
  let q := t.resolveFrom t.entries.length [] Path.root (p.segments.map .enter)
  ⟨Path.collapse q.segments⟩

/-- A path without links and `..`, unless a link on the way leads to itself. -/
def realPath (t : FileTree) (p : Path) : Except FileProblem Path :=
  if holdsNull p then .error .unusablePath
  else
    match t.locateTarget (t.resolve p) with
    | .error .tooManyLinks => .error .tooManyLinks
    | _ => .ok (t.resolve p)

end FileTree

end Folio
