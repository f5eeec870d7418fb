import Folio.Text.Printable

/-!
# Quoted text

`quote` writes a text as a double-quoted literal of printable ASCII: other characters become
escapes of sixteen-bit units, two for a character above the basic plane. `unescape` reads the body
of a literal that a person wrote, where a backslash stands for line feed, tab and return before
`n`, `t` and `r` and otherwise only keeps the next character.
-/

namespace Folio.Text

/-- A sixteen-bit unit as an escape. -/
def unitEscape (n : Nat) : List Char :=
  '\\' :: 'u' :: hexDigits 4 n

/-- One character inside a quoted literal. -/
def quoteBody (c : Char) : List Char :=
  if c = '"' then ['\\', '"']
  else if c = '\\' then ['\\', '\\']
  else if c = '\n' then ['\\', 'n']
  else if c = '\r' then ['\\', 'r']
  else if c = '\t' then ['\\', 't']
  else if c.toNat = 8 then ['\\', 'b']
  else if c.toNat = 12 then ['\\', 'f']
  else if 32 ≤ c.toNat && c.toNat < 127 then [c]
  else if c.toNat < 0x10000 then unitEscape c.toNat
  else
    unitEscape (0xD800 + (c.toNat - 0x10000) / 0x400)
      ++ unitEscape (0xDC00 + (c.toNat - 0x10000) % 0x400)

/-- A text as a double-quoted literal of printable ASCII. -/
def quote (s : String) : String :=
  String.ofList ('"' :: s.toList.flatMap quoteBody ++ ['"'])

/-- The character that a backslash makes of the next one. -/
def escaped (c : Char) : Char :=
  if c = 'n' then '\n' else if c = 't' then '\t' else if c = 'r' then '\r' else c

/-- The text that the body of a literal stands for. -/
def unescape : List Char → List Char
  | '\\' :: c :: r => escaped c :: unescape r
  | c :: r => c :: unescape r
  | [] => []

end Folio.Text
