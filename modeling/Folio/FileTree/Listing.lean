import Folio.FileTree.Basic

/-!
# Listings

What lies below a directory, in the order of path segments, and how two trees differ there.
-/

namespace Folio.FileTree

/-- The paths below a place, as segments from there, in order. Links below it are not entered. -/
def namesBelow (t : FileTree) (place : Path) : List (List String) :=
  let below := t.entries.filterMap fun e =>
    (e.1.below? place).filter fun segments => !segments.isEmpty
  (Path.sort (below.map Path.mk)).map Path.segments

/-- All paths below a directory, which may itself be reached through links, in order. -/
def pathsBelow (t : FileTree) (p : Path) : List Path :=
  match t.locateTarget p with
  | .ok q => if t.get? q = some .directory then (t.namesBelow q).map p.append else []
  | .error _ => []

/-- The files below a directory; a link to a file is one. -/
def filesBelow (t : FileTree) (p : Path) : List Path :=
  (t.pathsBelow p).filter t.isFile

/-- The entries of a directory itself. -/
def names (t : FileTree) (place : Path) : List String :=
  (t.namesBelow place).filterMap fun
    | [name] => some name
    | _ => none

/-- How a tree differs from an earlier one below a place: the entries that are new or other, and
nothing for those that are gone. -/
def changes (before after : FileTree) (place : Path) : List (List String × Option Entry) :=
  let at_ (t : FileTree) (segments : List String) := t.get? (place.append segments)
  let changed := (after.namesBelow place).filter fun s => at_ before s ≠ at_ after s
  let gone := (before.namesBelow place).filter fun s => (at_ after s).isNone
  changed.map (fun s => (s, at_ after s)) ++ gone.map fun s => (s, none)

/-- The tree with all the directories on the way to a place. -/
def withParents (t : FileTree) (p : Path) : FileTree :=
  (List.range p.segments.length).foldl (fun t n =>
    let q : Path := ⟨p.segments.take n⟩
    if (t.get? q).isSome then t else t.put q .directory) t

/-- The tree with something else, or nothing, at a path. -/
def place (t : FileTree) (p : Path) (e : Option Entry) : FileTree :=
  let q := (t.resolve p.parent).child p.name
  match e with
  | none => t.prune q
  | some .directory =>
    if t.get? q = some .directory then t else ((t.prune q).withParents q).put q .directory
  | some e => ((t.prune q).withParents q).put q e

end Folio.FileTree
