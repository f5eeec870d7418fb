import Folio.Text.Equivalent
import Folio.Text.Letter

/-!
# Normal forms of names

Names that look alike may be written with different characters. `normalName` takes each character
apart, puts the marks behind it in order and puts together what can be; two names are the same if
their normal forms are.
-/

namespace Folio.Text

/-! ## Taking apart -/

/-- The numbers from which syllables of the Korean script are made. -/
structure Syllables where
  first : Nat
  lead : Nat
  vowel : Nat
  tail : Nat
  deriving DecidableEq, Repr

/-- The first syllable, lead, vowel and, one before the first, tail. -/
def syllables : Syllables := ⟨0xAC00, 0x1100, 0x1161, 0x11A7⟩

def leadCount : Nat := 19
def vowelCount : Nat := 21
def tailCount : Nat := 28

/-- The parts of a syllable; `none` for other characters. -/
def syllableParts (n : Nat) : Option (List Nat) :=
  let s := syllables
  if n < s.first ∨ s.first + leadCount * vowelCount * tailCount ≤ n then none
  else
    let i := n - s.first
    let tail := i % tailCount
    some ([s.lead + i / (vowelCount * tailCount), s.vowel + i / tailCount % vowelCount]
      ++ if tail = 0 then [] else [s.tail + tail])

/-- The parts of a character, themselves taken apart. The bound is on how often that goes on. -/
def apart : Nat → Nat → List Nat
  | 0, n => [n]
  | bound + 1, n =>
    match syllableParts n, pairRows.find? (·.holds n), apartRows.find? (·.holds n) with
    | some parts, _, _ => parts
    | none, some row, _ => row.values.flatMap (apart bound)
    | none, none, some row =>
      match row.values with
      | [first] => [first + (n - row.first)]
      | values => values
    | none, none, none => [n]

/-- How often parts have parts. -/
def maxApart : Nat := 4

/-! ## Marks in order -/

/-- The class of a character: zero for all but combining marks. -/
def markClass (n : Nat) : Nat :=
  ((classRows.find? (·.holds n)).bind (·.values.head?)).getD 0

/-- Puts a character behind others, which come last first, but before marks of a higher class. -/
def settle (n : Nat) : List Nat → List Nat
  | [] => [n]
  | m :: rest =>
    if markClass n ≠ 0 ∧ markClass n < markClass m then m :: settle n rest else n :: m :: rest

def arrange (ns : List Nat) : List Nat :=
  (ns.foldl (fun done n => settle n done) []).reverse

/-! ## Putting together -/

/-- The syllable of a lead and a vowel, or of a syllable and a tail. -/
def syllableOf (a b : Nat) : Option Nat :=
  let s := syllables
  if s.lead ≤ a ∧ a < s.lead + leadCount ∧ s.vowel ≤ b ∧ b < s.vowel + vowelCount then
    some (s.first + ((a - s.lead) * vowelCount + (b - s.vowel)) * tailCount)
  else if s.first ≤ a ∧ a < s.first + leadCount * vowelCount * tailCount
      ∧ (a - s.first) % tailCount = 0 ∧ s.tail < b ∧ b < s.tail + tailCount then
    some (a + (b - s.tail))
  else none

/-- The character that two are put together to. -/
def together? (a b : Nat) : Option Nat :=
  (syllableOf a b).or ((pairRows.find? (·.values == [a, b])).map (·.first))

/-- Puts characters together. A mark goes with the last character that is none, unless a mark
between them, all of which are `kept` last first, is of its class or a higher one. -/
def compose (start : Option Nat) (kept : List Nat) : List Nat → List Nat
  | [] => start.toList ++ kept.reverse
  | n :: rest =>
    match start with
    | none => if markClass n = 0 then compose (some n) [] rest else n :: compose none [] rest
    | some s =>
      let isBlocked := kept.head?.any fun m => markClass n ≤ markClass m
      match if isBlocked then none else together? s n with
      | some c => compose (some c) kept rest
      | none =>
        if markClass n = 0 then s :: kept.reverse ++ compose (some n) [] rest
        else compose (some s) (n :: kept) rest

/-- The form that all ways to write a name share. -/
def normalName (name : String) : String :=
  if name.toList.all (·.toNat < 128) then name
  else
    let parts := (name.toList.map Char.toNat).flatMap (apart maxApart)
    String.ofList ((compose none [] (arrange parts)).map Char.ofNat)

/-! ## Identifiers -/

/-- Characters that begin identifiers though they are no letters. -/
def furtherStarts : List (Nat × Nat) := [
  (0x1885, 0x1886), (0x2118, 0x2118), (0x212E, 0x212E)]

/-- Letters that come apart into characters of no identifier. -/
def unfitLetters : List (Nat × Nat) := [
  (0x037A, 0x037A), (0x2E2F, 0x2E2F), (0xFC5E, 0xFC63), (0xFDFA, 0xFDFB), (0xFE70, 0xFE70),
  (0xFE72, 0xFE72), (0xFE74, 0xFE74), (0xFE76, 0xFE76), (0xFE78, 0xFE78), (0xFE7A, 0xFE7A),
  (0xFE7C, 0xFE7C), (0xFE7E, 0xFE7E)]

/-- Letters that come apart into a mark and a letter, and do not begin identifiers. -/
def unfitStarts : List (Nat × Nat) := [
  (0x0E33, 0x0E33), (0x0EB3, 0x0EB3), (0xFF9E, 0xFF9F)]

/-- Characters that identifiers go on with though they are no letters, digits or marks. -/
def furtherParts : List (Nat × Nat) := [
  (0x00B7, 0x00B7), (0x0387, 0x0387), (0x1369, 0x1371), (0x19DA, 0x19DA), (0x2118, 0x2118),
  (0x212E, 0x212E)]

/-- A character that an identifier may begin with. -/
def beginsIdentifier (c : Char) : Bool :=
  let n := c.toNat
  if n < 128 then isAsciiLetter c || c == '_'
  else inRanges furtherStarts n || (isLetter c && !inRanges unfitLetters n
    && !inRanges unfitStarts n)

/-- A character that an identifier may go on with. -/
def continuesIdentifier (c : Char) : Bool :=
  let n := c.toNat
  if n < 128 then isAsciiLetter c || isAsciiDigit c || c == '_'
  else inRanges furtherParts n || (isNamePart c && !inRanges unfitLetters n)

def isIdentifier (s : List Char) : Bool :=
  s.head?.any beginsIdentifier && s.tail.all continuesIdentifier

end Folio.Text
