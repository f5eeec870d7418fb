import Folio.Style.Parser
import Folio.Style.Selector

/-!
# Stylesheets

A stylesheet is a sequence of comments, imports, variables and flat rules. `parse` reads one; where
it is refused, the statements before that place still count, because they may import a sheet with
problems of its own.
-/

namespace Folio.Style

open Read Text

structure Assignment where
  name : String
  value : Expression
  /-- Whether it only counts where there is no value yet. -/
  isDefault : Bool
  isGlobal : Bool
  deriving DecidableEq, Repr

/-- What a rule holds. -/
inductive Item
  | comment (s : String)
  | variable (a : Assignment)
  | declaration (property : String) (at_ : Location) (value : Expression)
  /-- A declaration whose value is kept as it is written. -/
  | custom (property value : String)
  deriving DecidableEq, Repr

/-- What an import names: a sheet, or a link that stays, with the conditions for it. -/
inductive Target
  | sheet (name : String)
  | link (e : Expression) (conditions : String)
  deriving DecidableEq, Repr

inductive Statement
  | comment (s : String)
  | variable (a : Assignment)
  | import_ (target : Target) (at_ : Location)
  | rule (selector : Selector) (items : List Item)
  deriving DecidableEq, Repr

/-! ## Plain values -/

/-- The length of a part of a value that stays as it is written. -/
def plainPartLength (s : List Char) : Nat :=
  let number := numberLength s
  let percentage := if number != 0 && (s.drop number).head? = some '%' then number + 1 else 0
  let important := if begins "!important" s && beginsWord "!important" s then 10 else 0
  let bar := if s.head? = some '|' then 1 else 0
  [nameLength s, quotedLength s, percentage, hexLength [3, 6] s, hexLength [4, 8] s, bar,
    if number = 0 then 0 else number + unitLength (s.drop number), important].foldl
    (fun n m => if n = 0 then m else n) 0

/-- The length of a part together with the blanks, the slash or the comma in front of it. -/
def furtherPartLength (s : List Char) : Nat :=
  let spaces (s : List Char) : Nat := (s.takeWhile isSpace).length
  let gap := spaces s
  let sign := match s.drop gap with
    | '/' :: r | ',' :: r => 1 + spaces r
    | _ => 0
  let part := plainPartLength (s.drop (gap + sign))
  if gap + sign = 0 ∨ part = 0 then 0 else gap + sign + part

/-- The length of a value that stays as it is written, up to the sign that ends it. -/
def plainLength (s : List Char) : Option Nat :=
  let first := plainPartLength s
  let names := many nameLength (s.drop first)
  let n := first + names + many furtherPartLength (s.drop (first + names))
  let space := ((s.drop n).takeWhile isSpace).length
  match first, s.drop (n + space) with
  | _ + 1, ';' :: _ | _ + 1, '\x7d' :: _ => some n
  | _, _ => none

/-- The length of a value that is kept as it is written whatever it holds. -/
def customLength (depth : Nat) : List Char → Nat
  | [] => 0
  | '/' :: '*' :: r => customComment depth r + 2
  | c :: r =>
    if c = '"' ∨ c = '\'' then customQuoted depth c r + 1
    else if c = '(' ∨ c = '[' ∨ c = '\x7b' then customLength (depth + 1) r + 1
    else if c = ')' ∨ c = ']' ∨ c = '\x7d' then
      match depth with
      | 0 => 0
      | depth + 1 => customLength depth r + 1
    else if c = ';' ∧ depth = 0 then 0
    else customLength depth r + 1
where
  customQuoted (depth : Nat) (quote : Char) : List Char → Nat
    | [] => 0
    | '\\' :: _ :: r => customQuoted depth quote r + 2
    | c :: r => (if c = quote then customLength depth r else customQuoted depth quote r) + 1
  customComment (depth : Nat) : List Char → Nat
    | [] => 0
    | '*' :: '/' :: r => customLength depth r + 2
    | _ :: r => customComment depth r + 1

/-! ## Items -/

/-- Reads the marks behind the value of a variable. -/
def readMarks : Nat → Read (Bool × Bool)
  | 0 => return (false, false)
  | bound + 1 => do
    let s := afterBlanks (← rest)
    let default := markLength "default" s
    let global := markLength "global" s
    if default = 0 ∧ global = 0 then return (false, false)
    skipBlanks
    let _ ← take (if default = 0 then global else default)
    let (isDefault, isGlobal) ← readMarks bound
    return (isDefault || default != 0, isGlobal || global != 0)

/-- Reads the value of a variable. -/
def readAssignment : Read Assignment := do
  let word ← take (variableLength (← rest))
  let name := dashed (word.drop 1)
  if !begins ":" (afterBlanks (← rest)) then fail (.noColon ("$" ++ name))
  skipBlanks
  let _ ← take 1
  if (afterGaps (← rest)).head?.all (· == ';') then refuse someExpression
  let value ← readList
  let (isDefault, isGlobal) ← readMarks (← remaining)
  return ⟨name, value.forced, isDefault, isGlobal⟩

/-- Reads the value of a declaration. -/
def readDeclared : Read Expression := do
  skipGaps
  let s ← rest
  match plainLength s with
  | some n =>
    let word ← take n
    let name := String.ofList word
    return ((Color.ofName? name).map .color).getD (.text (String.ofList (joinLines word)))
  | none =>
    let value ← readList
    if value = .list .space .done then refuse someExpression
    skipGaps
    return value

/-- Reads a declaration. -/
def readDeclaration : Read Item := do
  let s ← rest
  let star := if s.head? = some '*' then 1 else 0
  let name := nameLength (s.drop star)
  if name = 0 then refuse "\"\x7d\""
  let property := String.ofList (← take (star + name))
  skip (many commentLength)
  if !(← accept ":") then fail (.noValue property)
  if begins "--" property.toList then
    let value ← take (customLength 0 (← rest))
    if value.isEmpty then fail .emptyCustom
    return .custom property (String.ofList value)
  else if begins ";" (afterGaps (← rest)) then fail .emptyValue
  else
    skipGaps
    return .declaration property (← here) (← readDeclared)

/-- Reads the items of a rule, its closing brace included. -/
def readRuleItems : Nat → Read (List Item)
  | 0 => refuse "\"\x7d\""
  | bound + 1 => do
    skipBlanks
    let s ← rest
    let comment := commentLength s
    if comment != 0 then
      let word ← take comment
      return .comment (String.ofList word) :: (← readRuleItems bound)
    match s with
    | [] => refuse "\"\x7d\""
    | '\x7d' :: _ =>
      let _ ← take 1
      return []
    | ';' :: _ =>
      let _ ← take 1
      readRuleItems bound
    | _ =>
      let item ← if variableLength s != 0 then .variable <$> readAssignment else readDeclaration
      return item :: (← readRuleItems bound)

/-! ## Statements -/

/-- Reads the sheets and links of an import, up to what ends it. -/
def readTargets : Nat → Read (List (List Char × Option Expression))
  | 0 => return []
  | bound + 1 => do
    skipGaps
    let s ← rest
    let string := quotedLength s
    let target ←
      if string != 0 then pure (← take string, none)
      else if begins "url(" s then
        match ← readLink? with
        | some e => pure ([], some e)
        | none => pure ([], some (← readList))
      else fail .badLink
    if ← accept "," then return target :: (← readTargets bound) else return [target]

/-- Whether a name begins with a scheme such as `http://`. -/
def hasScheme (name : List Char) : Bool :=
  let n := nameLength name
  (n != 0 && begins "://" (name.drop n)) || begins "//" name

/-- What a word in quotes imports. -/
def targetOf (word : List Char) (conditions : String) : Target :=
  let name := (unescape word.length (joinLines (word.drop 1).dropLast))
  let quote := word.head?.getD '"'
  if hasScheme name || conditions ≠ "" then
    .link (.text (inQuotes quote (String.ofList name))) conditions
  else if 4 < name.length && ".css".toList.isSuffixOf name then
    .link (.text ("url(" ++ String.ofList name ++ ")")) ""
  else .sheet (String.ofList name)

/-- Reads an import behind its word: links first, then sheets. -/
def readImport (here : Location) : Read (List Statement) := do
  let targets ← readTargets (← remaining)
  skipGaps
  let conditions := (← rest).takeWhile fun c => c != ';' && c != '\x7d'
  let _ ← take conditions.length
  let conditions := squish (String.ofList conditions)
  let last := targets.length - 1
  let found := targets.zipIdx.map fun ((word, e), i) =>
    match e with
    | some e => Target.link e (if i = last then conditions else "")
    | none => targetOf word conditions
  let isSheet : Target → Bool
    | .sheet _ => true
    | .link _ _ => false
  return (found.filter (!isSheet ·) ++ found.filter isSheet).map (Statement.import_ · here)

/-- Reads a rule. -/
def readRule : Read Statement := do
  let start ← get
  let surprise : Defect :=
    ⟨.surprise (.around "1 selector or at-rule" start.before start.rest), start.place⟩
  match readSelector.run start with
  | .error _ => throw surprise
  | .ok (selector, c) =>
    if !begins "\x7b" (afterGaps c.rest) then throw surprise
    set c
    let _ ← accept "\x7b"
    return .rule selector (← readRuleItems (← remaining))

/-- Reads what comes next at the top of a sheet. -/
def readStatement : Read (List Statement) := do
  let s ← rest
  let comment := commentLength s
  if comment != 0 then return [.comment (String.ofList (← take comment))]
  if s.head? = some ';' then
    let _ ← take 1
    return []
  if variableLength s != 0 then return [.variable (← readAssignment)]
  if beginsWord "@import" s then
    let at_ ← here
    let _ ← take 7
    return ← readImport at_
  if beginsWord "@charset" s then
    let _ ← take 8
    skipBlanks
    let _ ← take (quotedLength (← rest))
    return []
  return [← readRule]

/-- The statements that are left, and why no more could be read. -/
def statements : Nat → Cursor → List Statement × Option Defect
  | 0, _ => ([], none)
  | bound + 1, c =>
    match skipBlanks.run c with
    | .error d => ([], some d)
    | .ok ((), c) =>
      match c.rest with
      | [] => ([], none)
      | '\x7d' :: _ =>
        ([], some ⟨.surprise (.around "selector or at-rule" c.before c.rest), c.place⟩)
      | _ =>
        match readStatement.run c with
        | .error d => ([], some d)
        | .ok (read, c) =>
          let (more, d) := statements bound c
          (read ++ more, d)

/-- Reads a stylesheet. -/
def parse (source : String) : List Statement × Option Defect :=
  let s := source.toList
  let s := if s.head? = some '\ufeff' then s.drop 1 else s
  statements (s.length + 1) (.ofText s)

end Folio.Style
