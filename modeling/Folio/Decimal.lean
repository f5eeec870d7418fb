/-!
# Quotients in decimal

A fraction is kept to 53 significant bits, rounded to nearest with ties to even (`Dyadic.ofRatio`),
and printed with the fewest digits that read back as the same number (`Dyadic.text`). A `Real` has
a sign as well.
-/

namespace Folio

/-- The number `mantissa * 2 ^ exponent`. -/
structure Dyadic where
  mantissa : Nat
  exponent : Int
  deriving DecidableEq, Repr

/-- The quotient rounded to the nearest natural number, a half to the even one. -/
def roundDiv (a b : Nat) : Nat :=
  let q := a / b
  let r := a % b
  if 2 * r < b then q else if b < 2 * r then q + 1 else q + q % 2

namespace Dyadic

/-- `a * base ^ e` as a fraction. -/
def scaled (base a : Nat) (e : Int) : Nat × Nat :=
  if 0 ≤ e then (a * Nat.pow base e.toNat, 1) else (a, Nat.pow base (-e).toNat)

/-- The fraction `a / b` measured in units of `base ^ e`. -/
def measured (base a b : Nat) (e : Int) : Nat × Nat :=
  if 0 ≤ e then (a, b * Nat.pow base e.toNat) else (a * Nat.pow base (-e).toNat, b)

/-- The least mantissa of 53 bits. -/
def leastMantissa : Nat := 0x10000000000000

/-- The exponent below which no bit is kept. -/
def lowestExponent : Int := -1074

/-- The exponent above which a number of 53 bits is too large. -/
def highestExponent : Int := 971

/-- The nearest number of 53 bits to `a / b`, whatever its size. -/
def nearest (a b : Nat) : Dyadic :=
  if a = 0 then ⟨0, 0⟩
  else
    let guess : Int := (Nat.log2 a : Int) - Nat.log2 b - 52
    let guessed := measured 2 a b guess
    let e := max lowestExponent
      (if guessed.1 < leastMantissa * guessed.2 then guess - 1 else guess)
    let v := measured 2 a b e
    let m := roundDiv v.1 v.2
    if m = 2 * leastMantissa then ⟨leastMantissa, e + 1⟩ else ⟨m, e⟩

/-- The nearest number of 53 bits to `a / b`; `none` if that is too large. -/
def ofRatio (a b : Nat) : Option Dyadic :=
  let d := nearest a b
  if highestExponent < d.exponent then none else some d

/-- The number as a fraction. -/
def ratio (d : Dyadic) : Nat × Nat :=
  scaled 2 d.mantissa d.exponent

/-- Whether the fraction `a / b` reads as the number: it lies no further than half a unit away,
and the ends count for an even mantissa. -/
def reads (d : Dyadic) (a b : Nat) : Bool :=
  let low :=
    if d.mantissa = leastMantissa ∧ lowestExponent < d.exponent then
      scaled 2 (4 * d.mantissa - 1) (d.exponent - 2)
    else scaled 2 (2 * d.mantissa - 1) (d.exponent - 1)
  let high := scaled 2 (2 * d.mantissa + 1) (d.exponent - 1)
  if d.mantissa % 2 = 0 then low.1 * b ≤ a * low.2 && a * high.2 ≤ high.1 * b
  else low.1 * b < a * low.2 && a * high.2 < high.1 * b

/-- The least `x` with `v < 10 ^ x`, searched upwards from `x`. -/
def decimalPoint (v : Nat × Nat) (x : Int) : Nat → Int
  | 0 => x
  | fuel + 1 =>
    let w := measured 10 v.1 v.2 x
    if w.1 < w.2 then x else decimalPoint v (x + 1) fuel

/-- The digits with the fewest places that read as the number, tried from `count` places on, and
the place of the point. -/
def shortestFrom (d : Dyadic) (point : Int) (count : Nat) : Nat → Nat × Int
  | 0 => (0, point)
  | fuel + 1 =>
    let v := d.ratio
    let unit := point - count
    let (a, b) := measured 10 v.1 v.2 unit
    let near := roundDiv a b
    let other := if near * b ≤ a then near + 1 else near - 1
    let good (n : Nat) : Bool := let u := scaled 10 n unit; d.reads u.1 u.2
    if good near then (near, unit)
    else if good other then (other, unit)
    else shortestFrom d point (count + 1) fuel

/-- Digits with a point after the first `point` of them. -/
def positional (digits : List Char) (point : Int) : List Char :=
  if point ≤ 0 then
    '0' :: '.' :: List.replicate (-point).toNat '0' ++ digits
  else if digits.length ≤ point.toNat then
    digits ++ List.replicate (point.toNat - digits.length) '0' ++ ['.', '0']
  else digits.take point.toNat ++ '.' :: digits.drop point.toNat

/-- Digits with a point after the first and the exponent in at least two digits. -/
def scientific (digits : List Char) (exponent : Int) : List Char :=
  let places := if digits.length ≤ 1 then [] else '.' :: digits.drop 1
  let e := Nat.toDigits 10 exponent.natAbs
  digits.take 1 ++ places ++ 'e' :: (if exponent < 0 then '-' else '+')
    :: (if e.length < 2 then '0' :: e else e)

/-- The text of the number, without a sign. -/
def text (d : Dyadic) : String :=
  if d.mantissa = 0 then "0.0"
  else
    let point := decimalPoint d.ratio (-330) 700
    let (n, unit) := shortestFrom d point 1 17
    let written := Nat.toDigits 10 n
    let digits := (written.reverse.dropWhile (· == '0')).reverse
    let point := unit + written.length
    String.ofList
      (if -4 < point ∧ point ≤ 16 then positional digits point else scientific digits (point - 1))

end Dyadic

/-- A number with a sign, which zero has too. The quotient of two infinite numbers is no number. -/
inductive Real
  | finite (negative : Bool) (size : Dyadic)
  | infinite (negative : Bool)
  | undetermined
  deriving DecidableEq, Repr

namespace Real

/-- The number nearest to a fraction. -/
def ofRatio (negative : Bool) (a b : Nat) : Real :=
  (Dyadic.ofRatio a b).elim (infinite negative) (finite negative)

/-- The number nearest to a whole one; `none` if that is too large. -/
def ofInt (n : Int) : Option Real :=
  (Dyadic.ofRatio n.natAbs 1).map (finite (n < 0))

/-- The number nearest to `digits * 10 ^ exponent`. -/
def ofDecimal (digits : Nat) (exponent : Int) : Real :=
  let limit : Int := 400
  let places : Int := (Nat.toDigits 10 digits).length
  if digits = 0 ∨ places + exponent < -limit then finite false ⟨0, 0⟩
  else if limit < places + exponent then infinite false
  else
    let (a, b) := Dyadic.scaled 10 digits exponent
    ofRatio false a b

def isZero : Real → Bool
  | finite _ d => d.mantissa == 0
  | infinite _ | undetermined => false

def negate : Real → Real
  | finite negative d => finite (!negative) d
  | infinite negative => infinite (!negative)
  | undetermined => undetermined

/-- The quotient of two numbers; the divisor is not zero. -/
def quotient : Real → Real → Real
  | finite s a, finite t b =>
    let (n, d) := a.ratio
    let (m, e) := b.ratio
    ofRatio (s != t) (n * e) (d * m)
  | finite s _, infinite t => finite (s != t) ⟨0, 0⟩
  | infinite s, finite t _ => infinite (s != t)
  | _, _ => undetermined

/-- A size with a sign, as a whole number. -/
def signed (negative : Bool) (n : Nat) : Int :=
  if negative then -n else n

def sum : Real → Real → Real
  | finite s a, finite t b =>
    let (n, d) := a.ratio
    let (m, e) := b.ratio
    let total := signed s (n * e) + signed t (m * d)
    if total = 0 then finite (s && t) ⟨0, 0⟩ else ofRatio (total < 0) total.natAbs (d * e)
  | infinite s, infinite t => if s = t then infinite s else undetermined
  | infinite s, finite _ _ | finite _ _, infinite s => infinite s
  | _, _ => undetermined

def product : Real → Real → Real
  | finite s a, finite t b =>
    let (n, d) := a.ratio
    let (m, e) := b.ratio
    ofRatio (s != t) (n * m) (d * e)
  | infinite s, infinite t => infinite (s != t)
  | infinite s, finite t a | finite t a, infinite s =>
    if a.mantissa = 0 then undetermined else infinite (s != t)
  | _, _ => undetermined

/-- What is left of a number by whole multiples of another, with the sign of that one. -/
def remainder : Real → Real → Real
  | finite s a, finite t b =>
    let (n, d) := a.ratio
    let (m, e) := b.ratio
    let rest := Int.fmod (signed s (n * e)) (signed t (m * d))
    if m = 0 then undetermined
    else if rest = 0 then finite s ⟨0, 0⟩
    else ofRatio (rest < 0) rest.natAbs (d * e)
  | finite s a, infinite _ => finite s a
  | _, _ => undetermined

/-- The order of two numbers; `none` if one of them is undetermined. -/
def order? : Real → Real → Option Ordering
  | finite s a, finite t b =>
    let (n, d) := a.ratio
    let (m, e) := b.ratio
    some (compare (signed s (n * e)) (signed t (m * d)))
  | infinite s, infinite t => some (compare t s)
  | infinite s, finite _ _ => some (if s then .lt else .gt)
  | finite _ _, infinite t => some (if t then .gt else .lt)
  | _, _ => none

/-- Digits that stand for `n` units of a decimal place, without zeros at the end of the places. -/
def placesText (n places : Nat) : String :=
  let unit := Nat.pow 10 places
  let written := Nat.toDigits 10 (n % unit)
  let padded := List.replicate (places - written.length) '0' ++ written
  let kept := (padded.reverse.dropWhile (· == '0')).reverse
  toString (n / unit) ++ (if n % unit = 0 then "" else "." ++ String.ofList kept)

/-- The number rounded to some decimal places, a half to the even digit. Zero has no sign. -/
def fixedText (places : Nat) : Real → String
  | finite negative d =>
    let (a, b) := d.ratio
    let n := roundDiv (a * Nat.pow 10 places) b
    (if negative && n != 0 then "-" else "") ++ placesText n places
  | infinite negative => (if negative then "-" else "") ++ "inf"
  | undetermined => "nan"

def text : Real → String
  | finite negative d => (if negative then "-" else "") ++ d.text
  | infinite negative => (if negative then "-" else "") ++ "inf"
  | undetermined => "nan"

end Real

end Folio
