import Folio.Fault

/-!
# Text as bytes

`encode` writes a text in UTF-8 and `decode` reads it. A sequence that is not UTF-8 is refused at
its first faulty byte, with the range of bytes that were read in vain and the flaw that was found.
-/

namespace Folio

abbrev Bytes := List UInt8

namespace Text

/-- The bytes of one character. -/
def encodeChar (c : Char) : Bytes :=
  let n := c.toNat
  let tail (shift : Nat) : UInt8 := UInt8.ofNat (0x80 + n / shift % 64)
  if n < 0x80 then [UInt8.ofNat n]
  else if n < 0x800 then [UInt8.ofNat (0xC0 + n / 64), tail 1]
  else if n < 0x10000 then [UInt8.ofNat (0xE0 + n / 4096), tail 64, tail 1]
  else [UInt8.ofNat (0xF0 + n / 262144), tail 4096, tail 64, tail 1]

def encode (s : String) : Bytes :=
  s.toList.flatMap encodeChar

/-- Bytes that are not text: those from `start` up to `stop` were read in vain. -/
structure DecodeFault where
  start : Nat
  stop : Nat
  byte : Nat
  flaw : ByteFlaw
  deriving DecidableEq, Repr

def DecodeFault.message (f : DecodeFault) : String :=
  if f.stop ≤ f.start + 1 then
    "'utf-8' codec can't decode byte 0x" ++ String.ofList (hexDigits 2 f.byte)
      ++ s!" in position {f.start}: {f.flaw.message}"
  else
    s!"'utf-8' codec can't decode bytes in position {f.start}-{f.stop - 1}: {f.flaw.message}"

/-- The second byte may lie between these after a first byte of three or four. -/
def secondRange (first : Nat) : Nat × Nat :=
  if first = 0xE0 then (0xA0, 0xBF)
  else if first = 0xED then (0x80, 0x9F)
  else if first = 0xF0 then (0x90, 0xBF)
  else if first = 0xF4 then (0x80, 0x8F)
  else (0x80, 0xBF)

/-- How many bytes follow a first byte and the bits that it carries. -/
def leadOf (first : Nat) : Option (Nat × Nat) :=
  if first < 0x80 then some (0, first)
  else if first < 0xC2 then none
  else if first < 0xE0 then some (1, first - 0xC0)
  else if first < 0xF0 then some (2, first - 0xE0)
  else if first < 0xF5 then some (3, first - 0xF0)
  else none

/-- Reads `count` more bytes of a character, of which the next lies in `range`. On failure answers
how many were good and the flaw. -/
def continuation (range : Nat × Nat) (bits : Nat) : Nat → Bytes → Except (Nat × ByteFlaw) Nat
  | 0, _ => .ok bits
  | _ + 1, [] => .error (0, .truncated)
  | count + 1, b :: r =>
    if range.1 ≤ b.toNat ∧ b.toNat ≤ range.2 then
      match continuation (0x80, 0xBF) (bits * 64 + b.toNat % 64) count r with
      | .ok n => .ok n
      | .error (good, flaw) => .error (good + 1, flaw)
    else .error (0, .badContinuation)

/-- The characters of the bytes from `offset` on. -/
def decodeFrom (offset : Nat) : Bytes → Except DecodeFault (List Char)
  | [] => .ok []
  | b :: r =>
    match leadOf b.toNat with
    | none => .error ⟨offset, offset + 1, b.toNat, .badStart⟩
    | some (count, bits) =>
      match continuation (secondRange b.toNat) bits count r with
      | .error (good, flaw) => .error ⟨offset, offset + 1 + good, b.toNat, flaw⟩
      | .ok n =>
        match decodeFrom (offset + 1 + count) (r.drop count) with
        | .error fault => .error fault
        | .ok cs => .ok (Char.ofNat n :: cs)
termination_by bytes => bytes.length
decreasing_by simp only [List.length_drop, List.length_cons]; omega

/-- The text that some bytes hold. -/
def decode (bytes : Bytes) : Except DecodeFault String :=
  (decodeFrom 0 bytes).map String.ofList

/-- The line and column, in bytes and from one, of a position among some bytes. -/
def byteLocation (bytes : Bytes) (position : Nat) : Location :=
  let before := bytes.take position
  let sinceBreak := before.reverse.takeWhile (· ≠ 10)
  ⟨before.count 10 + 1, sinceBreak.length + 1⟩

/-- The text of a source file; a flaw is a fault of that file. -/
def decodeSource (bytes : Bytes) (file : String) : Except Fault String :=
  match decode bytes with
  | .ok s => .ok s
  | .error f =>
    let l := byteLocation bytes f.start
    .error ⟨.invalidByte f.byte f.flaw, file, l.line, l.column⟩

end Text

end Folio
