/-!
# Locations

An offset counts characters from the start of a text; a location counts lines and columns from
one. Only a line feed ends a line. Offsets before the start lie on line zero, at columns counted
from where the last line starts.
-/

namespace Folio.Text

structure Location where
  line : Int
  column : Int
  deriving DecidableEq, Repr

namespace Location

def first : Location := ⟨1, 1⟩

/-- The location after one more character. -/
def advance (l : Location) (c : Char) : Location :=
  if c = '\n' then ⟨l.line + 1, 1⟩ else ⟨l.line, l.column + 1⟩

/-- The location that some characters lead to. -/
def after (s : List Char) : Location :=
  s.foldl advance first

/-- The location of an offset; offsets past the end go on along the last line. -/
def ofOffset (source : List Char) (offset : Int) : Location :=
  if offset < 0 then ⟨0, offset - source.length + (after source).column⟩
  else
    let reached := after (source.take offset.toNat)
    ⟨reached.line, reached.column + (offset.toNat - source.length : Nat)⟩

end Location

end Folio.Text
