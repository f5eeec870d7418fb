import Folio.Decimal
import Folio.Style.Lexeme

/-!
# Colors

A `Color` has three channels and a share of cover. It prints as it was written; a compact text is
the shortest of its name and its digits, and a color that was computed prints its name if it has
one.
-/

namespace Folio.Style

open Text

/-- The names of colors with their channels. The first name of a color is the one that prints. -/
def namedColors : List (String × Nat) := [
  ("aliceblue", 0xF0F8FF), ("antiquewhite", 0xFAEBD7), ("cyan", 0x00FFFF), ("aqua", 0x00FFFF),
  ("aquamarine", 0x7FFFD4), ("azure", 0xF0FFFF), ("beige", 0xF5F5DC), ("bisque", 0xFFE4C4),
  ("black", 0x000000), ("blanchedalmond", 0xFFEBCD), ("blue", 0x0000FF), ("blueviolet", 0x8A2BE2),
  ("brown", 0xA52A2A), ("burlywood", 0xDEB887), ("cadetblue", 0x5F9EA0), ("chartreuse", 0x7FFF00),
  ("chocolate", 0xD2691E), ("coral", 0xFF7F50), ("cornflowerblue", 0x6495ED),
  ("cornsilk", 0xFFF8DC), ("crimson", 0xDC143C), ("darkblue", 0x00008B), ("darkcyan", 0x008B8B),
  ("darkgoldenrod", 0xB8860B), ("darkgray", 0xA9A9A9), ("darkgrey", 0xA9A9A9),
  ("darkgreen", 0x006400), ("darkkhaki", 0xBDB76B), ("darkmagenta", 0x8B008B),
  ("darkolivegreen", 0x556B2F), ("darkorange", 0xFF8C00), ("darkorchid", 0x9932CC),
  ("darkred", 0x8B0000), ("darksalmon", 0xE9967A), ("darkseagreen", 0x8FBC8F),
  ("darkslateblue", 0x483D8B), ("darkslategray", 0x2F4F4F), ("darkslategrey", 0x2F4F4F),
  ("darkturquoise", 0x00CED1), ("darkviolet", 0x9400D3), ("deeppink", 0xFF1493),
  ("deepskyblue", 0x00BFFF), ("dimgray", 0x696969), ("dimgrey", 0x696969),
  ("dodgerblue", 0x1E90FF), ("firebrick", 0xB22222), ("floralwhite", 0xFFFAF0),
  ("forestgreen", 0x228B22), ("magenta", 0xFF00FF), ("fuchsia", 0xFF00FF),
  ("gainsboro", 0xDCDCDC), ("ghostwhite", 0xF8F8FF), ("gold", 0xFFD700), ("goldenrod", 0xDAA520),
  ("gray", 0x808080), ("grey", 0x808080), ("green", 0x008000), ("greenyellow", 0xADFF2F),
  ("honeydew", 0xF0FFF0), ("hotpink", 0xFF69B4), ("indianred", 0xCD5C5C), ("indigo", 0x4B0082),
  ("ivory", 0xFFFFF0), ("khaki", 0xF0E68C), ("lavender", 0xE6E6FA), ("lavenderblush", 0xFFF0F5),
  ("lawngreen", 0x7CFC00), ("lemonchiffon", 0xFFFACD), ("lightblue", 0xADD8E6),
  ("lightcoral", 0xF08080), ("lightcyan", 0xE0FFFF), ("lightgoldenrodyellow", 0xFAFAD2),
  ("lightgray", 0xD3D3D3), ("lightgrey", 0xD3D3D3), ("lightgreen", 0x90EE90),
  ("lightpink", 0xFFB6C1), ("lightsalmon", 0xFFA07A), ("lightseagreen", 0x20B2AA),
  ("lightskyblue", 0x87CEFA), ("lightslategray", 0x778899), ("lightslategrey", 0x778899),
  ("lightsteelblue", 0xB0C4DE), ("lightyellow", 0xFFFFE0), ("lime", 0x00FF00),
  ("limegreen", 0x32CD32), ("linen", 0xFAF0E6), ("maroon", 0x800000),
  ("mediumaquamarine", 0x66CDAA), ("mediumblue", 0x0000CD), ("mediumorchid", 0xBA55D3),
  ("mediumpurple", 0x9370DB), ("mediumseagreen", 0x3CB371), ("mediumslateblue", 0x7B68EE),
  ("mediumspringgreen", 0x00FA9A), ("mediumturquoise", 0x48D1CC), ("mediumvioletred", 0xC71585),
  ("midnightblue", 0x191970), ("mintcream", 0xF5FFFA), ("mistyrose", 0xFFE4E1),
  ("moccasin", 0xFFE4B5), ("navajowhite", 0xFFDEAD), ("navy", 0x000080), ("oldlace", 0xFDF5E6),
  ("olive", 0x808000), ("olivedrab", 0x6B8E23), ("orange", 0xFFA500), ("orangered", 0xFF4500),
  ("orchid", 0xDA70D6), ("palegoldenrod", 0xEEE8AA), ("palegreen", 0x98FB98),
  ("paleturquoise", 0xAFEEEE), ("palevioletred", 0xDB7093), ("papayawhip", 0xFFEFD5),
  ("peachpuff", 0xFFDAB9), ("peru", 0xCD853F), ("pink", 0xFFC0CB), ("plum", 0xDDA0DD),
  ("powderblue", 0xB0E0E6), ("purple", 0x800080), ("red", 0xFF0000), ("rosybrown", 0xBC8F8F),
  ("royalblue", 0x4169E1), ("saddlebrown", 0x8B4513), ("salmon", 0xFA8072),
  ("sandybrown", 0xF4A460), ("seagreen", 0x2E8B57), ("seashell", 0xFFF5EE), ("sienna", 0xA0522D),
  ("silver", 0xC0C0C0), ("skyblue", 0x87CEEB), ("slateblue", 0x6A5ACD), ("slategray", 0x708090),
  ("slategrey", 0x708090), ("snow", 0xFFFAFA), ("springgreen", 0x00FF7F), ("steelblue", 0x4682B4),
  ("tan", 0xD2B48C), ("teal", 0x008080), ("thistle", 0xD8BFD8), ("tomato", 0xFF6347),
  ("turquoise", 0x40E0D0), ("violet", 0xEE82EE), ("wheat", 0xF5DEB3), ("white", 0xFFFFFF),
  ("whitesmoke", 0xF5F5F5), ("yellow", 0xFFFF00), ("yellowgreen", 0x9ACD32),
  ("rebeccapurple", 0x663399)]

structure Color where
  red : Nat
  green : Nat
  blue : Nat
  cover : Real
  /-- How it was written; empty for a computed color. -/
  written : String
  /-- Whether a compact text keeps it as it was written. -/
  kept : Bool
  deriving DecidableEq, Repr

namespace Color

def fullCover : Real := .ofRatio false 1 1

/-- The color of three channels in one number. -/
def ofNumber (n : Nat) (cover : Real) (written : String) (kept : Bool) : Color :=
  ⟨n / 65536 % 256, n / 256 % 256, n % 256, cover, written, kept⟩

def number (c : Color) : Nat :=
  (c.red * 256 + c.green) * 256 + c.blue

/-- The color of a name in any case. -/
def ofName? (name : String) : Option Color :=
  let key := name.toLower
  if key = "transparent" then some (ofNumber 0 (.finite false ⟨0, 0⟩) name true)
  else (namedColors.lookup key).map fun n => ofNumber n fullCover name true

/-- The color that hexadecimal digits write behind a sign: one or two for each channel, and as many
for its cover if they go on. -/
def ofHex (s : List Char) : Color :=
  let digits := s.drop 1
  let digits := if digits.length ≤ 4 then digits.flatMap fun c => [c, c] else digits
  let cover :=
    if digits.length ≤ 6 then fullCover else .ofRatio false (hexValue (digits.drop 6)) 255
  ofNumber (hexValue (digits.take 6)) cover (String.ofList s) false

/-- The name of three channels. -/
def nameOf? (n : Nat) : Option String :=
  (namedColors.find? (·.2 == n)).map (·.1)

/-! ## Printing -/

/-- A number between zero and one, in six significant digits. -/
def coverText : Real → String
  | .finite _ d =>
    let point := Dyadic.decimalPoint d.ratio (-330) 340
    if d.mantissa = 0 then "0"
    else
      let (a, b) := Dyadic.measured 10 d.ratio.1 d.ratio.2 (point - 6)
      let n := roundDiv a b
      let (n, point) := if n = 1000000 then (100000, point + 1) else (n, point)
      let digits := ((Nat.toDigits 10 n).reverse.dropWhile (· == '0')).reverse
      if -4 < point then
        if point ≤ 0 then
          String.ofList ('0' :: '.' :: List.replicate (-point).toNat '0' ++ digits)
        else String.ofList (digits.take point.toNat)
      else String.ofList (Dyadic.scientific digits (point - 1))
  | x => x.text

/-- Hexadecimal digits of a channel. -/
def channelDigits (n : Nat) : List Char :=
  let written := Nat.toDigits 16 n
  List.replicate (2 - written.length) '0' ++ written

/-- The color in hexadecimal digits, one for each channel where a compact text can do so. -/
def hexText (compactly : Bool) (c : Color) : String :=
  let channels := [c.red, c.green, c.blue].map channelDigits
  let short := compactly && channels.all fun d => d.head? == d.getLast?
  String.ofList ('#' :: channels.flatMap fun d => if short then d.take 1 else d)

def isCovering (c : Color) : Bool :=
  c.cover.order? fullCover != some .lt

def text (compactly : Bool) (c : Color) : String :=
  if c.written ≠ "" ∧ !(compactly && !c.kept) then c.written
  else if c.isCovering then
    let hex := c.hexText compactly
    let name := if (ofName? c.written).isSome then c.written else (nameOf? c.number).getD c.written
    if name = "" ∨ compactly && hex.length < name.length then hex else name
  else
    let gap := if compactly then "," else ", "
    "rgba(" ++ gap.intercalate [toString c.red, toString c.green, toString c.blue]
      ++ gap ++ coverText c.cover ++ ")"

end Color

end Folio.Style
