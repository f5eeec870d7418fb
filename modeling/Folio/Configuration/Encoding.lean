import Folio.Configuration.Problem
import Folio.Text.Lines

/-!
# The encoding of a configuration

A comment in one of the first two lines of a configuration may say how the file is encoded;
otherwise it is UTF-8. `Encoding.decode` gives the text of the file, with line feeds only.
-/

namespace Folio.Configuration

open Text

inductive Encoding
  | utf8
  | latin
  | ascii
  /-- The encoding of a code page, with the characters that are not those of their numbers. -/
  | page (characters : List (Nat × Nat))
  deriving DecidableEq, Repr

namespace Encoding

/-- What differs from Latin-1 in the western code page of Windows; zero where nothing stands. -/
def windows : List (Nat × Nat) := [
  (0x80, 0x20AC), (0x81, 0), (0x82, 0x201A), (0x83, 0x0192), (0x84, 0x201E), (0x85, 0x2026),
  (0x86, 0x2020), (0x87, 0x2021), (0x88, 0x02C6), (0x89, 0x2030), (0x8A, 0x0160), (0x8B, 0x2039),
  (0x8C, 0x0152), (0x8D, 0), (0x8E, 0x017D), (0x8F, 0), (0x90, 0), (0x91, 0x2018), (0x92, 0x2019),
  (0x93, 0x201C), (0x94, 0x201D), (0x95, 0x2022), (0x96, 0x2013), (0x97, 0x2014), (0x98, 0x02DC),
  (0x99, 0x2122), (0x9A, 0x0161), (0x9B, 0x203A), (0x9C, 0x0153), (0x9D, 0), (0x9E, 0x017E),
  (0x9F, 0x0178)]

/-- What differs from Latin-1 in Latin-9. -/
def latinNine : List (Nat × Nat) := [
  (0xA4, 0x20AC), (0xA6, 0x0160), (0xA8, 0x0161), (0xB4, 0x017D), (0xB8, 0x017E), (0xBC, 0x0152),
  (0xBD, 0x0153), (0xBE, 0x0178)]

/-- The encodings with the names that they have, in small letters and with underscores. -/
def all : List (Encoding × List String) := [
  (utf8, ["utf_8", "u8", "utf", "utf8", "utf8_ucs2", "utf8_ucs4", "cp65001"]),
  (latin, ["latin_1", "8859", "cp819", "csisolatin1", "ibm819", "iso8859", "iso8859_1",
    "iso_8859_1", "iso_8859_1_1987", "iso_ir_100", "l1", "latin", "latin1"]),
  (ascii, ["ascii", "646", "ansi_x3.4_1968", "ansi_x3_4_1968", "ansi_x3.4_1986", "cp367",
    "csascii", "ibm367", "iso646_us", "iso_646.irv_1991", "iso_ir_6", "us", "us_ascii"]),
  (page windows, ["cp1252", "1252", "windows_1252"]),
  (page latinNine, ["iso8859_15", "iso_8859_15", "latin9", "l9"])]

def isNameChar (c : Char) : Bool :=
  isAsciiLetter c || isAsciiDigit c || c == '-' || c == '_' || c == '.'

def lowerAscii (c : Char) : Char :=
  if 'A' ≤ c ∧ c ≤ 'Z' then Char.ofNat (c.toNat + 32) else c

/-- A name as a comment gives it, with the usual spellings of two encodings made one. -/
def usualName (name : String) : String :=
  let short := (name.toList.take 12).map fun c => if c = '_' then '-' else lowerAscii c
  let isCalled (s : String) : Bool :=
    s.toList == short || (s ++ "-").toList.isPrefixOf short
  if isCalled "utf-8" then "utf-8"
  else if isCalled "latin-1" || isCalled "iso-8859-1" || isCalled "iso-latin-1" then "iso-8859-1"
  else name

/-- The encoding of a name. -/
def ofName? (name : String) : Option Encoding :=
  let name := String.ofList (name.toList.map fun c => if c = '-' then '_' else lowerAscii c)
  (all.find? (·.2.contains name)).map (·.1)

def isBlankByte (c : Char) : Bool :=
  c == ' ' || c == '\t' || c == '\x0c'

/-- The name behind the first place of a comment that names an encoding. -/
def namedIn : List Char → Option String
  | [] => none
  | c :: r =>
    let s := c :: r
    match if "coding".toList.isPrefixOf s then s.drop 6 else [] with
    | d :: rest =>
      let name := (rest.dropWhile fun c => c == ' ' || c == '\t').takeWhile isNameChar
      if (d = ':' ∨ d = '=') ∧ name ≠ [] then some (String.ofList name) else namedIn r
    | [] => namedIn r

/-- The name of an encoding in a line, if that is a comment. -/
def declaredIn (line : List Char) : Option String :=
  match line.dropWhile isBlankByte with
  | '#' :: r => namedIn r
  | _ => none

/-- The name of the encoding that some lines declare. The second line counts if the first one says
nothing at all. -/
def declared : List (List Char) → Option String
  | [] => none
  | first :: rest =>
    let second := (rest.head?).filter fun _ =>
      (first.dropWhile isBlankByte).head?.all (· == '#')
    (declaredIn first).or (second.bind declaredIn)

/-- The mark that a UTF-8 file may begin with. -/
def byteMark : Bytes := [0xEF, 0xBB, 0xBF]

/-- The character of a byte in a code page. -/
def pageChar (characters : List (Nat × Nat)) (b : UInt8) : Except ConfigurationProblem Char :=
  match characters.lookup b.toNat with
  | some 0 => .error (.undecodable "a byte stands for no character")
  | some n => .ok (Char.ofNat n)
  | none => .ok (Char.ofNat b.toNat)

/-- The characters of some bytes. -/
def characters (e : Encoding) (bytes : Bytes) : Except ConfigurationProblem (List Char) :=
  match e with
  | utf8 =>
    match Text.decode bytes with
    | .ok s => .ok s.toList
    | .error f => .error (.undecodable f.message)
  | latin => .ok (bytes.map fun b => Char.ofNat b.toNat)
  | ascii =>
    if bytes.all (· < 0x80) then .ok (bytes.map fun b => Char.ofNat b.toNat)
    else .error (.undecodable "a byte stands for no character")
  | page characters => bytes.mapM (pageChar characters)

/-- The encoding of a file, which may begin with the mark of UTF-8. -/
def ofFile (isMarked : Bool) (bytes : Bytes) : Except ConfigurationProblem Encoding :=
  let lines := splitOn '\n' (unifyLines (bytes.map fun b => Char.ofNat b.toNat))
  match declared lines with
  | none => .ok utf8
  | some name =>
    let name := usualName name
    if isMarked then if name = "utf-8" then .ok utf8 else .error (.otherEncoding name)
    else (ofName? name).elim (.error (.unknownEncoding name)) .ok

/-- The text of a file. -/
def decode (bytes : Bytes) : Except ConfigurationProblem (List Char) := do
  if bytes.contains 0 then throw .emptyCharacter
  let isMarked := byteMark.isPrefixOf bytes
  let bytes := if isMarked then bytes.drop 3 else bytes
  return unifyLines (← (← ofFile isMarked bytes).characters bytes)

end Encoding

end Folio.Configuration
