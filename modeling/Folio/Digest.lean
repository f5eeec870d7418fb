import Folio.Text.Utf8

/-!
# Content digests

`Digest.md5` is the MD5 digest of some bytes, `Digest.hex` its hexadecimal form.
-/

namespace Folio.Digest

/-- The additive constants of the 64 steps. -/
def stepConstants : List UInt32 := [
  0xd76aa478, 0xe8c7b756, 0x242070db, 0xc1bdceee, 0xf57c0faf, 0x4787c62a,
  0xa8304613, 0xfd469501, 0x698098d8, 0x8b44f7af, 0xffff5bb1, 0x895cd7be,
  0x6b901122, 0xfd987193, 0xa679438e, 0x49b40821, 0xf61e2562, 0xc040b340,
  0x265e5a51, 0xe9b6c7aa, 0xd62f105d, 0x02441453, 0xd8a1e681, 0xe7d3fbc8,
  0x21e1cde6, 0xc33707d6, 0xf4d50d87, 0x455a14ed, 0xa9e3e905, 0xfcefa3f8,
  0x676f02d9, 0x8d2a4c8a, 0xfffa3942, 0x8771f681, 0x6d9d6122, 0xfde5380c,
  0xa4beea44, 0x4bdecfa9, 0xf6bb4b60, 0xbebfbc70, 0x289b7ec6, 0xeaa127fa,
  0xd4ef3085, 0x04881d05, 0xd9d4d039, 0xe6db99e5, 0x1fa27cf8, 0xc4ac5665,
  0xf4292244, 0x432aff97, 0xab9423a7, 0xfc93a039, 0x655b59c3, 0x8f0ccc92,
  0xffeff47d, 0x85845dd1, 0x6fa87e4f, 0xfe2ce6e0, 0xa3014314, 0x4e0811a1,
  0xf7537e82, 0xbd3af235, 0x2ad7d2bb, 0xeb86d391]

/-- The left rotations of a round's steps, four by four. -/
def rotations : List UInt32 := [
  7, 12, 17, 22, 7, 12, 17, 22, 7, 12, 17, 22, 7, 12, 17, 22,
  5, 9, 14, 20, 5, 9, 14, 20, 5, 9, 14, 20, 5, 9, 14, 20,
  4, 11, 16, 23, 4, 11, 16, 23, 4, 11, 16, 23, 4, 11, 16, 23,
  6, 10, 15, 21, 6, 10, 15, 21, 6, 10, 15, 21, 6, 10, 15, 21]

structure State where
  a : UInt32
  b : UInt32
  c : UInt32
  d : UInt32
  deriving DecidableEq, Repr

def State.initial : State :=
  ⟨0x67452301, 0xefcdab89, 0x98badcfe, 0x10325476⟩

def rotateLeft (x n : UInt32) : UInt32 :=
  (x <<< n) ||| (x >>> (32 - n))

/-- The mixing function of step `i` and the word of the block that it takes. -/
def mix (i : Nat) (s : State) : UInt32 × Nat :=
  if i < 16 then ((s.b &&& s.c) ||| (~~~s.b &&& s.d), i)
  else if i < 32 then ((s.d &&& s.b) ||| (~~~s.d &&& s.c), (5 * i + 1) % 16)
  else if i < 48 then (s.b ^^^ s.c ^^^ s.d, (3 * i + 5) % 16)
  else (s.c ^^^ (s.b ||| ~~~s.d), 7 * i % 16)

def step (block : Array UInt32) (s : State) (i : Nat) (constant rotation : UInt32) : State :=
  let (f, word) := mix i s
  let sum := s.a + f + constant + block.getD word 0
  ⟨s.d, s.b + rotateLeft sum rotation, s.b, s.c⟩

/-- The state after one block of sixteen words. -/
def compress (s : State) (block : Array UInt32) : State :=
  let final := ((stepConstants.zip rotations).zipIdx).foldl
    (fun s k => step block s k.2 k.1.1 k.1.2) s
  ⟨s.a + final.a, s.b + final.b, s.c + final.c, s.d + final.d⟩

/-- A number as `count` bytes, the lowest first. -/
def littleEndian : Nat → Nat → Bytes
  | 0, _ => []
  | count + 1, n => UInt8.ofNat (n % 256) :: littleEndian count (n / 256)

/-- The message with its padding: a one bit, zeros and the length in bits. -/
def padded (bytes : Bytes) : Bytes :=
  let zeros := (119 - bytes.length % 64) % 64
  bytes ++ 0x80 :: List.replicate zeros 0 ++ littleEndian 8 (bytes.length * 8)

/-- Four bytes at a time as words, the lowest byte first. -/
def toWords : Bytes → List UInt32
  | a :: b :: c :: d :: r =>
    (a.toUInt32 ||| (b.toUInt32 <<< 8) ||| (c.toUInt32 <<< 16) ||| (d.toUInt32 <<< 24)) :: toWords r
  | _ => []

/-- Blocks of sixteen words. -/
def blocks (words : List UInt32) : List (Array UInt32) :=
  if words.length < 16 then []
  else (words.take 16).toArray :: blocks (words.drop 16)
termination_by words.length
decreasing_by simp only [List.length_drop]; omega

def md5 (bytes : Bytes) : Bytes :=
  let s := (blocks (toWords (padded bytes))).foldl compress State.initial
  [s.a, s.b, s.c, s.d].flatMap fun w => littleEndian 4 w.toNat

/-- Bytes in lower-case hexadecimal. -/
def hex (bytes : Bytes) : List Char :=
  bytes.flatMap fun b => Text.hexDigits 2 b.toNat

/-- A beginning of a list: `length` elements, or all but the last `-length`. -/
def cut {α : Type} (length : Int) (s : List α) : List α :=
  if length < 0 then s.take (s.length - length.natAbs) else s.take length.toNat

/-- The digest of some content, cut to a length if there is one. -/
def ofContent (length : Option Int) (content : Bytes) : String :=
  let digits := hex (md5 content)
  String.ofList (length.elim digits (cut · digits))

end Folio.Digest
