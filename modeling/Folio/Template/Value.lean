import Folio.Decimal
import Folio.Fault
import Folio.Text.Number

/-!
# Template values

What a name in a template may stand for, how a value is printed, and what counts as true. A value
that is missing is `undefined` together with what a message says of it: it prints as nothing, and
only asking for something inside it fails.
-/

namespace Folio.Template

open Text

inductive Function
  | squish
  | assetPath
  | inlineAsset
  deriving DecidableEq, Repr

/-- A kind of values, which is a value itself. -/
inductive Kind
  | range
  | table
  | cycler
  | joiner
  | namespace
  deriving DecidableEq, Repr

mutual

inductive Value
  | text (s : String)
  /-- Text that is printed without escapes. -/
  | markup (s : String)
  | integer (n : Int)
  | real (x : Real)
  | truth (b : Bool)
  | none
  | list (items : Items)
  | table (entries : Entries)
  /-- Whole numbers from one on and before another, some step apart. -/
  | range (first bound step : Int)
  | function (f : Function)
  | kind (k : Kind)
  /-- The template of a page, which knows the blocks that it has. -/
  | page (name : String) (blocks : List String)
  /-- The block of a name that is so many templates away from the nearest to the root. -/
  | block (name : String) (distance : Nat)
  /-- A value of which only the type is known. -/
  | thing (type : String)
  | undefined (what : String)
  deriving DecidableEq, Repr

inductive Items
  | done
  | more (first : Value) (rest : Items)
  deriving DecidableEq, Repr

inductive Entries
  | done
  | more (key : String) (value : Value) (rest : Entries)
  deriving DecidableEq, Repr

end

instance : Inhabited Value := ⟨.none⟩

/-- A character as it is printed in a page. -/
def escapeChar (c : Char) : List Char :=
  if c = '&' then "&amp;".toList
  else if c = '<' then "&lt;".toList
  else if c = '>' then "&gt;".toList
  else if c = '"' then "&#34;".toList
  else if c = '\'' then "&#39;".toList
  else [c]

def escape (s : String) : String :=
  String.ofList (s.toList.flatMap escapeChar)

namespace Items

def toList : Items → List Value
  | done => []
  | more first rest => first :: rest.toList

def ofList : List Value → Items
  | [] => done
  | v :: vs => more v (ofList vs)

end Items

namespace Entries

def ofList : List (String × Value) → Entries
  | [] => done
  | (key, value) :: rest => more key value (ofList rest)

def keys : Entries → List String
  | done => []
  | more key _ rest => key :: rest.keys

/-- The value of a key. -/
def get? (key : String) : Entries → Option Value
  | done => none
  | more k v rest => if k = key then some v else rest.get? key

end Entries

/-! ## Names of types -/

namespace Function

def name : Function → String
  | squish => "squish"
  | assetPath => "TemplateCompiler.compile.<locals>.asset_path"
  | inlineAsset => "TemplateCompiler.compile.<locals>.inline_asset"

/-- The name of the one argument. -/
def argument : Function → String
  | squish => "text"
  | assetPath | inlineAsset => "name"

end Function

namespace Kind

def text : Kind → String
  | range => "<class 'range'>"
  | table => "<class 'dict'>"
  | cycler => "<class 'jinja2.utils.Cycler'>"
  | joiner => "<class 'jinja2.utils.Joiner'>"
  | «namespace» => "<class 'jinja2.utils.Namespace'>"

/-- The names inside a kind. -/
def members : Kind → List String
  | range => ["count", "index", "start", "step", "stop", "mro"]
  | table => ["clear", "copy", "fromkeys", "get", "items", "keys", "pop", "popitem", "setdefault",
      "update", "values", "mro"]
  | cycler => ["current", "next", "reset", "mro"]
  | joiner | «namespace» => ["mro"]

end Kind

namespace Value

/-- The name of the value's type in messages. -/
def typeName : Value → String
  | text _ => "str"
  | markup _ => "Markup"
  | integer _ => "int"
  | real _ => "float"
  | truth _ => "bool"
  | none => "NoneType"
  | list _ => "list"
  | table _ => "dict"
  | range _ _ _ => "range"
  | function _ => "function"
  | kind _ => "type"
  | page _ _ => "TemplateReference"
  | block _ _ => "BlockReference"
  | thing type => type
  | undefined _ => "Undefined"

/-- How a message names the value that something is missing from. -/
def ownerName : Value → String
  | none => "None"
  | markup _ => "markupsafe.Markup object"
  | page _ _ => "jinja2.runtime.TemplateReference object"
  | block _ _ => "jinja2.runtime.BlockReference object"
  | v => v.typeName ++ " object"

/-! ## Printing -/

/-- A whole number in decimal digits. -/
def integerText (n : Int) : Except Cause String :=
  let s := toString n
  if maxDigits < (toString n.natAbs).length then .error (.tooManyDigits Option.none) else .ok s

/-- A range as a message shows it. -/
def rangeText (first bound step : Int) : String :=
  s!"range({first}, {bound}" ++ (if step = 1 then "" else s!", {step}") ++ ")"

/-- A value that is no list or table as it stands inside one. -/
def plainQuoted : Value → Except Cause String
  | text s => .ok (quoteText s)
  | markup s => .ok ("Markup(" ++ quoteText s ++ ")")
  | integer n => integerText n
  | real x => .ok x.text
  | truth b => .ok (if b then "True" else "False")
  | none => .ok "None"
  | range first bound step => .ok (rangeText first bound step)
  | kind k => .ok k.text
  | page name _ => .ok ("<TemplateReference " ++ quoteText name ++ ">")
  | undefined _ => .ok "Undefined"
  | v => .ok ("<" ++ v.typeName ++ ">")

end Value

mutual

/-- A value as it stands inside another. -/
def Value.quoted : Value → Except Cause String
  | .list items => items.quoted.map fun parts => "[" ++ ", ".intercalate parts ++ "]"
  | .table entries =>
    entries.quoted.map fun parts => "\x7b" ++ ", ".intercalate parts ++ "\x7d"
  | .text s => (Value.text s).plainQuoted
  | .markup s => (Value.markup s).plainQuoted
  | .integer n => (Value.integer n).plainQuoted
  | .real x => (Value.real x).plainQuoted
  | .truth b => (Value.truth b).plainQuoted
  | .none => Value.none.plainQuoted
  | .range a b c => (Value.range a b c).plainQuoted
  | .function f => (Value.function f).plainQuoted
  | .kind k => (Value.kind k).plainQuoted
  | .page name blocks => (Value.page name blocks).plainQuoted
  | .block name distance => (Value.block name distance).plainQuoted
  | .thing type => (Value.thing type).plainQuoted
  | .undefined what => (Value.undefined what).plainQuoted

def Items.quoted : Items → Except Cause (List String)
  | .done => .ok []
  | .more v rest => do return (← v.quoted) :: (← rest.quoted)

def Entries.quoted : Entries → Except Cause (List String)
  | .done => .ok []
  | .more key v rest => do return (quoteText key ++ ": " ++ (← v.quoted)) :: (← rest.quoted)

end

namespace Value

/-- The value as plain text. -/
def plain : Value → Except Cause String
  | text s | markup s => .ok s
  | undefined _ => .ok ""
  | v => v.quoted

/-- The value as it stands in a page. -/
def printed : Value → Except Cause String
  | markup s => .ok s
  | v => v.plain.map escape

def isTrue : Value → Bool
  | text s | markup s => s ≠ ""
  | integer n => n ≠ 0
  | real x => !x.isZero
  | truth b => b
  | none | undefined _ => false
  | list items => items ≠ .done
  | table entries => entries ≠ .done
  | range first bound step => if 0 < step then first < bound else bound < first
  | function _ | kind _ | page _ _ | block _ _ | thing _ => true

/-! ## Members and items -/

def textMembers : List String :=
  ["capitalize", "casefold", "center", "count", "encode", "endswith", "expandtabs", "find",
    "format", "format_map", "index", "isalnum", "isalpha", "isascii", "isdecimal", "isdigit",
    "isidentifier", "islower", "isnumeric", "isprintable", "isspace", "istitle", "isupper", "join",
    "ljust", "lower", "lstrip", "maketrans", "partition", "removeprefix", "removesuffix",
    "replace", "rfind", "rindex", "rjust", "rpartition", "rsplit", "rstrip", "split", "splitlines",
    "startswith", "strip", "swapcase", "title", "translate", "upper", "zfill"]

/-- What a value holds under a name of its own, whatever its items. -/
def member? (v : Value) (name : String) : Option Value :=
  let known (names : List String) : Option Value :=
    if names.contains name then some (thing "builtin_function_or_method") else Option.none
  match v with
  | text _ => known textMembers
  | markup _ => known (["escape", "striptags", "unescape"] ++ textMembers)
  | integer n =>
    if name = "real" ∨ name = "numerator" then some (integer n)
    else if name = "imag" then some (integer 0)
    else if name = "denominator" then some (integer 1)
    else known ["as_integer_ratio", "bit_count", "bit_length", "conjugate", "from_bytes",
      "to_bytes"]
  | truth b =>
    if name = "real" ∨ name = "numerator" then some (integer (if b then 1 else 0))
    else if name = "imag" then some (integer 0)
    else if name = "denominator" then some (integer 1)
    else known ["as_integer_ratio", "bit_count", "bit_length", "conjugate", "from_bytes",
      "to_bytes"]
  | real x =>
    if name = "real" then some (real x)
    else if name = "imag" then some (real (.finite false ⟨0, 0⟩))
    else known ["as_integer_ratio", "conjugate", "fromhex", "hex", "is_integer"]
  | list _ => known ["append", "clear", "copy", "count", "extend", "index", "insert", "pop",
      "remove", "reverse", "sort"]
  | table _ => known ["clear", "copy", "fromkeys", "get", "items", "keys", "pop", "popitem",
      "setdefault", "update", "values"]
  | range first bound step =>
    if name = "start" then some (integer first)
    else if name = "stop" then some (integer bound)
    else if name = "step" then some (integer step)
    else known ["count", "index"]
  | kind k => known k.members
  | none | function _ | page _ _ | block _ _ | thing _ | undefined _ => Option.none

/-- The place that an index means among so many items; a negative one counts from the end. -/
def place? (count : Nat) (n : Int) : Option Nat :=
  if 0 ≤ n ∧ n < count then some n.toNat
  else if n < 0 ∧ -n ≤ count then some (count - (-n).toNat)
  else Option.none

/-- The whole number that a value is as an index. -/
def index? : Value → Option Int
  | integer n => some n
  | truth b => some (if b then 1 else 0)
  | _ => Option.none

/-- How many numbers a range has. -/
def rangeCount (first bound step : Int) : Nat :=
  if 0 < step then ((bound - first + step - 1) / step).toNat
  else ((first - bound - step - 1) / (-step)).toNat

/-- The item of a value under a key. -/
def item? (v key : Value) : Option Value :=
  let at_ {α : Type} (items : List α) (f : α → Value) : Option Value :=
    key.index?.bind fun n => (place? items.length n).bind fun i => items[i]?.map f
  match v, key with
  | table entries, text name | table entries, markup name => entries.get? name
  | page _ blocks, text name | page _ blocks, markup name =>
    if blocks.contains name then some (block name 0) else Option.none
  | text s, _ => at_ s.toList fun c => text (String.singleton c)
  | markup s, _ => at_ s.toList fun c => markup (String.singleton c)
  | list items, _ => at_ items.toList id
  | range first bound step, _ =>
    key.index?.bind fun n =>
      (place? (rangeCount first bound step) n).map fun i => integer (first + step * i)
  | _, _ => Option.none

/-- What is missing from a value. -/
def missing (v key : Value) : Value :=
  let name := key.quoted.toOption.getD ""
  match key with
  | text _ | markup _ => undefined s!"'{v.ownerName}' has no attribute {name}"
  | _ => undefined s!"{v.ownerName} has no element {name}"

/-- The member of a name, or else the item. An undefined value has neither and says so. -/
def member (v : Value) (name : String) : Except Cause Value :=
  match v with
  | undefined what => .error (.undefinedValue what)
  | v => .ok (((v.member? name).or (v.item? (text name))).getD (v.missing (text name)))

/-- The item of a key, or else the member. An undefined value has neither and says so. -/
def item (v key : Value) : Except Cause Value :=
  match v, key with
  | undefined what, _ => .error (.undefinedValue what)
  | v, text name | v, markup name =>
    .ok (((v.item? key).or (v.member? name)).getD (v.missing key))
  | v, key => .ok ((v.item? key).getD (v.missing key))

/-! ## Arithmetic -/

/-- A number as a real one; `none` if it is too large. -/
def toReal? : Value → Option Real
  | real x => some x
  | v => v.index?.bind Real.ofInt

/-- Whether a value is a number. -/
def isNumber : Value → Bool
  | integer _ | truth _ | real _ => true
  | _ => false

def quotient (a b : Value) : Except Cause Value :=
  match a, b with
  | undefined what, _ | _, undefined what => .error (.undefinedValue what)
  | a, b =>
    if !a.isNumber || !b.isNumber then .error (.wrongOperands a.typeName b.typeName)
    else
      match a.index?, b.index? with
      | some n, some m =>
        if m = 0 then .error .divisionByZero
        else
          match Dyadic.ofRatio n.natAbs m.natAbs with
          | some d => .ok (real (.finite ((n < 0) != (m < 0)) d))
          | Option.none => .error .tooLargeQuotient
      | _, _ =>
        match a.toReal?, b.toReal? with
        | some x, some y =>
          if y.isZero then .error .realDivisionByZero else .ok (real (x.quotient y))
        | _, _ => .error .tooLargeInteger

/-- A number behind a sign. -/
def signed (sign : String) (v : Value) : Except Cause Value :=
  match v with
  | undefined what => .error (.undefinedValue what)
  | real x => .ok (real (if sign = "-" then x.negate else x))
  | v =>
    match v.index? with
    | some n => .ok (integer (if sign = "-" then -n else n))
    | Option.none => .error (.wrongOperand sign v.typeName)

/-! ## Values of a kind -/

/-- The arguments of a range as whole numbers. -/
def wholeArguments (arguments : List Value) : Except Cause (List Int) :=
  arguments.mapM fun v =>
    match v.index? with
    | some n => .ok n
    | Option.none => .error (.notWhole v.typeName)

def rangeOf (arguments : List Value) : Except Cause Value := do
  match arguments with
  | [] => throw (.argumentCount "range" "least" 1 0)
  | _ :: _ :: _ :: _ :: _ => throw (.argumentCount "range" "most" 3 arguments.length)
  | arguments =>
    match ← wholeArguments arguments with
    | [bound] => return range 0 bound 1
    | [first, bound] => return range first bound 1
    | [first, bound, step] =>
      if step = 0 then throw .zeroStep else return range first bound step
    | _ => return none

/-- A table that another one is copied to. -/
def tableOf : List Value → Except Cause Value
  | [] => .ok (table .done)
  | [table entries] => .ok (table entries)
  | [undefined what] => .error (.undefinedValue what)
  | [v] =>
    match v with
    | list .done | text "" | markup "" => .ok (table .done)
    | v => .error (.notIterable v.typeName)
  | vs => .error (.argumentCount "dict" "most" 1 vs.length)

/-- A value of a kind. -/
def ofKind (k : Kind) (arguments : List Value) : Except Cause Value :=
  match k with
  | .range => rangeOf arguments
  | .table => tableOf arguments
  | .cycler => .ok (thing "Cycler")
  | .joiner => .ok (thing "Joiner")
  | .namespace => .ok (thing "Namespace")

end Value

end Folio.Template
