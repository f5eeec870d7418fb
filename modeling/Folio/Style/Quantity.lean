import Folio.Decimal
import Folio.Style.Lexeme

/-!
# Numbers with units

A `Quantity` is a number times some units and divided by others. Units of one dimension are
converted into each other; a unit that stands on both sides is dropped. `Quantity.text` prints at
most five decimal places.
-/

namespace Folio.Style

open Text

inductive Dimension
  | length
  | angle
  | time
  | frequency
  | resolution
  deriving DecidableEq, Repr

/-- The dimension of a unit, and the unit as a fraction of the first one of its dimension. -/
def knownUnits : List (String × Dimension × Nat × Nat) := [
  ("px", .length, 1, 1), ("in", .length, 96, 1), ("pc", .length, 16, 1), ("pt", .length, 4, 3),
  ("cm", .length, 4800, 127), ("mm", .length, 480, 127), ("deg", .angle, 1, 1),
  ("grad", .angle, 9, 10), ("turn", .angle, 360, 1), ("s", .time, 1, 1), ("ms", .time, 1, 1000),
  ("Hz", .frequency, 1, 1), ("kHz", .frequency, 1000, 1), ("dpi", .resolution, 1, 1),
  ("dpcm", .resolution, 254, 100), ("dppx", .resolution, 96, 1)]

/-- How many of the second unit make one of the first; `none` if they do not measure the same. -/
def conversion (a b : String) : Option Real :=
  if a = b then some (.ofRatio false 1 1)
  else
    match knownUnits.lookup a, knownUnits.lookup b with
    | some (d, n, m), some (e, k, l) =>
      if d = e then some (.ofRatio false (n * l) (m * k)) else none
    | _, _ => none

structure Quantity where
  value : Real
  /-- The units that it is multiplied with. -/
  units : List String
  /-- The units that it is divided by. -/
  divisors : List String
  /-- Whether a compact text may leave out a zero before the point. -/
  shortened : Bool
  deriving DecidableEq, Repr

namespace Quantity

/-- The number that some characters write; the exponent has no places. -/
def readValue (s : List Char) : Real :=
  let sign := signLength s
  let s' := s.drop sign
  let whole := s'.take (digitsLength s')
  let places := match s'.drop whole.length with
    | '.' :: r => r.take (digitsLength r)
    | _ => []
  let tail := s.drop (sign + unsignedLength s')
  let exponent : Int := match tail with
    | 'e' :: r =>
      let digits := r.drop (signLength r)
      let n : Int := decimalValue (digits.take (digitsLength digits))
      if r.head? = some '-' then -n else n
    | _ => 0
  let value := Real.ofDecimal (decimalValue (whole ++ places)) (exponent - places.length)
  if s.head? = some '-' then value.negate else value

/-- The quantity that a number and a unit write. Only a number that is written with another digit
than zero before its point is shortened. -/
def read (number unit : List Char) : Quantity :=
  let pieces (s : List Char) := ((splitOn '*' s).map String.ofList).filter (· ≠ "")
  let (above, below) := match splitOn '/' unit with
    | a :: b :: _ => (pieces a, pieces b)
    | pieces' => (pieces'.flatMap pieces, [])
  let bare := number.drop (if number.head? = some '-' then 1 else 0)
  ⟨readValue number, above, below, !(begins "." bare || begins "0." bare)⟩

/-- A number without a unit. -/
def ofReal (x : Real) : Quantity := ⟨x, [], [], true⟩

def isPure (q : Quantity) : Bool :=
  q.units.isEmpty && q.divisors.isEmpty

def unitText (q : Quantity) : String :=
  "*".intercalate q.units ++ (if q.divisors.isEmpty then "" else "/")
    ++ "*".intercalate q.divisors

/-- Whether a stylesheet may hold the quantity. -/
def isPlain (q : Quantity) : Bool :=
  q.units.length ≤ 1 && q.divisors.isEmpty

/-- The number without a zero before its point. -/
def withoutZero : List Char → List Char
  | '-' :: '0' :: '.' :: r => '-' :: '.' :: r
  | '0' :: '.' :: r => '.' :: r
  | s => s

def text (compactly : Bool) (q : Quantity) : String :=
  let number := q.value.fixedText 5
  (if compactly && q.shortened then String.ofList (withoutZero number.toList) else number)
    ++ q.unitText

/-! ## Arithmetic -/

/-- A unit taken off some divisors that have one of its dimension: how many of that make one. -/
def cancel (unit : String) : List String → Option (Real × List String)
  | [] => none
  | d :: rest =>
    match conversion unit d with
    | some factor => some (factor, rest)
    | none => (cancel unit rest).map fun (factor, rest) => (factor, d :: rest)

/-- Drops the units that have a divisor of their dimension. -/
def reduceUnits (value : Real) : List String → List String → Real × List String × List String
  | [], divisors => (value, [], divisors)
  | u :: rest, divisors =>
    match cancel u divisors with
    | some (factor, divisors) => reduceUnits (value.product factor) rest divisors
    | none =>
      let (value, units, divisors) := reduceUnits value rest divisors
      (value, u :: units, divisors)

def reduce (q : Quantity) : Quantity :=
  let (value, units, divisors) := reduceUnits q.value q.units q.divisors
  { q with value := value, units := units, divisors := divisors }

/-- The factors that turn some units into others, in any order; `none` if they do not measure the
same. -/
def factor : List String → List String → Option Real
  | [], [] => some (.ofRatio false 1 1)
  | [], _ :: _ => none
  | u :: rest, others =>
    match cancel u others with
    | some (f, others) => (factor rest others).map f.product
    | none => none

/-- The number of a quantity in the units of another one; `none` if they do not measure the same.
A number without a unit goes with every unit. -/
def valueIn (q other : Quantity) : Option Real :=
  let q := q.reduce
  let other := other.reduce
  if q.isPure || other.isPure then some q.value
  else
    match factor q.units other.units, factor other.divisors q.divisors with
    | some above, some below => some ((q.value.product above).product below)
    | _, _ => none

/-- Two quantities combined in the units of the first, or of the second if that has none. -/
def combine (f : Real → Real → Real) (a b : Quantity) : Option Quantity :=
  (b.valueIn a).map fun y =>
    let value := f a.value y
    if a.isPure then { a with value := value, units := b.units, divisors := b.divisors }
    else { a with value := value }

def product (a b : Quantity) : Quantity :=
  reduce { a with
    value := a.value.product b.value
    units := a.units ++ b.units
    divisors := a.divisors ++ b.divisors }

/-- The quotient of two quantities; the divisor is not zero. -/
def quotient (a b : Quantity) : Quantity :=
  reduce { a with
    value := a.value.quotient b.value
    units := a.units ++ b.divisors
    divisors := a.divisors ++ b.units }

def negate (q : Quantity) : Quantity :=
  { q with value := q.value.negate }

/-- Whether two quantities are the same once they are converted. A number without a unit goes with
every unit. -/
def agrees (a b : Quantity) : Bool :=
  (b.valueIn a).any fun y => a.value.order? y = some .eq

end Quantity

end Folio.Style
