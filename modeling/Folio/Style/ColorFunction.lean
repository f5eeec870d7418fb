import Folio.Style.Value

/-!
# Functions that make colors

A color by its channels, or by hue, saturation and lightness. A channel that is only known to a
browser leaves the call as it is written.
-/

namespace Folio.Style

open Text

/-! ## Arguments -/

/-- An argument with its name, if it was given by name. -/
abbrev Given := Option String × Value

/-- The arguments in the order of the parameters of a function. -/
def bindArguments (function : String) (parameters : List String) (given : List Given) :
    Except Problem (List Value) :=
  let unnamed := (given.filter (·.1.isNone)).map (·.2)
  let strange := given.findSome? fun (name, _) => name.filter (!parameters.contains ·)
  match strange with
  | some name => .error (.noParameter function ("$" ++ name))
  | none =>
    if parameters.length < unnamed.length then
      .error (.tooManyArguments function unnamed.length parameters.length)
    else
      let values := (parameters.take unnamed.length).zip unnamed
        ++ given.filterMap fun (name, v) => name.map (·, v)
      parameters.mapM fun p =>
        match values.lookup p with
        | some v => .ok v
        | none => .error (.missingArgument function ("$" ++ p))

/-! ## Numbers -/

/-- A number between zero and `top`; other numbers count as the nearer end. -/
def clamped (top : Nat) : Real → Rat
  | .finite negative d =>
    let (n, m) := d.ratio
    let x := mkRat (Real.signed negative n) m
    if x < 0 then 0 else if top < x then top else x
  | .infinite negative => if negative then 0 else top
  | .undetermined => 0

/-- The nearest whole number, a half upwards. -/
def roundUp (x : Rat) : Nat :=
  (x + 1 / 2).floor.toNat

/-- Whether a value is a text that a browser computes. -/
def isComputedLater : Value → Bool
  | .text s => begins "calc(" s.toList || begins "var(" s.toList
  | _ => false

inductive ColorFunction
  | rgb
  | rgba
  | hsl
  | hsla
  deriving DecidableEq, Repr

namespace ColorFunction

def name : ColorFunction → String
  | rgb => "rgb"
  | rgba => "rgba"
  | hsl => "hsl"
  | hsla => "hsla"

def all : List ColorFunction :=
  [rgb, rgba, hsl, hsla]

def ofName? (name : String) : Option ColorFunction :=
  all.find? (·.name == name)

def parameters : ColorFunction → List String
  | rgb => ["red", "green", "blue"]
  | rgba => ["red", "green", "blue", "alpha"]
  | hsl => ["hue", "saturation", "lightness"]
  | hsla => ["hue", "saturation", "lightness", "alpha"]

def signature (f : ColorFunction) : String :=
  f.name ++ "(" ++ ", ".intercalate (f.parameters.map ("$" ++ ·)) ++ ")"

/-- The number of an argument. -/
def numberOf (f : ColorFunction) (parameter : String) : Value → Except Problem Quantity
  | .number q => .ok q.reduce
  | _ => .error (.notANumber ("$" ++ parameter) f.signature)

/-- A channel from zero to 255, which may be given in percent. -/
def channel (q : Quantity) : Rat :=
  if q.unitText = "%" then clamped 100 q.value * 255 / 100 else clamped 255 q.value

/-- A cover from zero to one, which may be given in percent. -/
def coverOf (q : Quantity) : Real :=
  let value := if q.unitText = "%" then q.value.quotient (.ofRatio false 100 1) else q.value
  if value.order? (.finite false ⟨0, 0⟩) = some .lt then .finite false ⟨0, 0⟩
  else if value.order? Color.fullCover = some .gt then Color.fullCover
  else value

/-- The color of three channels. -/
def ofChannels (r g b : Rat) (cover : Real) : Value :=
  .color ⟨roundUp r, roundUp g, roundUp b, cover, "", false⟩

/-- A channel at some distance of the hue, which is counted in turns. -/
def hueChannel (low high hue : Rat) : Rat :=
  let h := hue - hue.floor
  255 * (if h * 6 < 1 then low + (high - low) * h * 6
    else if h * 2 < 1 then high
    else if h * 3 < 2 then low + (high - low) * (2 / 3 - h) * 6
    else low)

/-- The color of a hue in degrees, and a saturation and lightness in percent. -/
def ofHue (hue : Real) (saturation lightness : Rat) (cover : Real) : Value :=
  let degrees : Rat := match hue with
    | .finite negative d => mkRat (Real.signed negative d.ratio.1) d.ratio.2
    | _ => 0
  let h := degrees / 360
  let s := saturation / 100
  let l := lightness / 100
  let high := if l ≤ 1 / 2 then l * (s + 1) else l + s - l * s
  let low := l * 2 - high
  ofChannels (hueChannel low high (h + 1 / 3)) (hueChannel low high h)
    (hueChannel low high (h - 1 / 3)) cover

/-- A color of the channels of another one. -/
def recover (c : Color) (cover : Real) : Value :=
  .color { c with cover := cover, written := "", kept := false }

/-- The value of a call. -/
def apply (f : ColorFunction) (compactly : Bool) (given : List Given) : Except Problem Value := do
  if f = rgba ∧ given.length = 2 then
    match ← bindArguments f.name ["color", "alpha"] given with
    | [.color c, v] => return recover c (coverOf (← numberOf f "alpha" v))
    | [v, w] =>
      if isComputedLater v || isComputedLater w then
        return .text ("rgba(" ++ v.render compactly ++ ", " ++ w.render compactly ++ ")")
      else throw (.notAColor "$color" "rgba($color, $alpha)")
    | _ => throw (.noOverload f.name)
  if (f = rgba ∨ f = hsla) ∧ given.length ≠ 4 then throw (.noOverload f.name)
  let values ← bindArguments f.name f.parameters given
  if values.any isComputedLater then
    return .text (f.name ++ "(" ++ ", ".intercalate (values.map (·.render compactly)) ++ ")")
  let numbers ← (f.parameters.zip values).mapM fun (p, v) => numberOf f p v
  match f, numbers with
  | hsl, h :: s :: l :: _ | hsla, h :: s :: l :: _ =>
    return ofHue h.value (clamped 100 s.value) (clamped 100 l.value)
      ((numbers[3]?.map coverOf).getD Color.fullCover)
  | _, r :: g :: b :: _ =>
    return ofChannels (channel r) (channel g) (channel b)
      ((numbers[3]?.map coverOf).getD Color.fullCover)
  | _, _ => throw (.noOverload f.name)

end ColorFunction

end Folio.Style
