import Folio.Style.Problem

/-!
# Reading stylesheets

A `Cursor` stands between the characters that have been read and those that are left. `Read` moves
it on. A reader that is refused tells of the place where it settled last, or on the first line of
the word that it read last.
-/

namespace Folio.Style

open Text

structure Cursor where
  /-- What has been read, last first. -/
  before : List Char
  rest : List Char
  here : Location
  /-- Where the last word begins. -/
  token : Location
  /-- Where the reader settled last, at the beginning of a word or behind one. -/
  mark : Location
  deriving DecidableEq, Repr

namespace Cursor

def ofText (s : List Char) : Cursor :=
  ⟨[], s, .first, .first, .first⟩

/-- Moves some characters on, which are the last word. -/
def advance (c : Cursor) (n : Nat) : Cursor :=
  let word := c.rest.take n
  if word.isEmpty then c
  else
    ⟨word.reverse ++ c.before, c.rest.drop n, word.foldl Location.advance c.here, c.here, c.here⟩

/-- The place that a refusal tells of. -/
def place (c : Cursor) : Location :=
  if c.mark.line = 1 then c.token else c.mark

end Cursor

abbrev Read := StateT Cursor (Except Defect)

namespace Read

/-- The characters that are left. -/
def rest : Read (List Char) :=
  return (← get).rest

def remaining : Read Nat :=
  return (← rest).length

def here : Read Location :=
  return (← get).here

/-- Reads a word of some length. -/
def take (n : Nat) : Read (List Char) := do
  let c ← get
  set (c.advance n)
  return c.rest.take n

/-- Leaves out as many characters as something takes that may be missing. -/
def skip (length : List Char → Nat) : Read Unit := do
  let n := length (← rest)
  if n != 0 then
    let _ ← take n

/-- Leaves out blanks. -/
def skipBlanks : Read Unit :=
  skip (many blankLength)

/-- Leaves out blanks and comments. -/
def skipGaps : Read Unit :=
  skip (many gapLength)

/-- Settles behind the last word. -/
def settle : Read Unit :=
  modify fun c => { c with mark := c.here }

def fail {α : Type} (p : Problem) : Read α := do
  throw ⟨p, (← get).place⟩

/-- Refuses a sheet because something else was wanted. -/
def refuse {α : Type} (wanted : String) : Read α := do
  let c ← get
  throw ⟨.surprise (.around wanted c.before c.rest), c.place⟩

/-- Reads a sign behind blanks and comments if it is there, and answers whether it is. -/
def accept (sign : String) : Read Bool := do
  if begins sign (afterGaps (← rest)) then
    skipGaps
    let _ ← take sign.length
    return true
  else return false

end Read

end Folio.Style
