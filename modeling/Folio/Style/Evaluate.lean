import Folio.Style.ColorFunction
import Folio.Style.Function
import Folio.Table

/-!
# Values of expressions

`evaluate` computes the value of an expression from those of variables, and notes the assets that
are looked up on the way.
-/

namespace Folio.Style

open Text

/-- What the value of an expression depends on. -/
structure Setting where
  /-- The path under which an asset is published. -/
  resolve : String → String
  compactly : Bool
  assigned : String → Option Value

/-- Notes lookups, the newest first. -/
abbrev Evaluation := StateT (List String) (Except Defect)

/-- A result, or a problem at some location. -/
def Evaluation.at_ {α : Type} (here : Location) : Except Problem α → Evaluation α
  | .ok a => pure a
  | .error p => throw ⟨p, here⟩

/-- The text that an asset function is asked with. -/
def Value.string? : Value → Option String
  | .text s | .quoted s => some s
  | _ => none

/-- The value of an asset function. -/
def callAsset (setting : Setting) (f : Function) (name : String) (here : Location)
    (given : List Given) : Evaluation Value := do
  let values ← Evaluation.at_ here (bindArguments name ["asset"] given)
  match values.head?.bind Value.string? with
  | none => throw ⟨.functionFailed name, here⟩
  | some argument =>
    modify (Function.lookup argument :: ·)
    return .text (String.ofList (joinLines (f.apply setting.resolve argument).toList))

/-- The value of a call whose arguments have values. -/
def call (setting : Setting) (name : String) (here : Location) (given : List Given) :
    Evaluation Value := do
  let key := dashed name.toList
  match Function.all.find? fun f => dashed f.name.toList = key, ColorFunction.ofName? key with
  | some f, _ => callAsset setting f name here given
  | none, some f => Evaluation.at_ here (f.apply setting.compactly given)
  | none, none =>
    if given.any (·.1.isSome) then throw ⟨.namedArgument name, here⟩
    let texts := given.map (·.2.render setting.compactly)
    return .text (name ++ "(" ++ ", ".intercalate texts ++ ")")

mutual

def evaluate (setting : Setting) : Expression → Evaluation Value
  | .text s => return .text s
  | .quoted s => return .quoted s
  | .number q => return .number q
  | .color c => return .color c
  | .truth b => return .truth b
  | .null => return .null
  | .variable name here =>
    match setting.assigned name with
    | some v => return v.recalled
    | none => throw ⟨.undefinedVariable name, here⟩
  | .list separator items => do
    return .list separator (.ofList ((← evaluateAll setting items).map (·.2)))
  | .bracketed e => return .bracketed (← evaluate setting e)
  | .grouped e => evaluate setting e
  | .signed sign e => return (← evaluate setting e).sign setting.compactly sign
  | .operation operator literal here a b => do
    let v ← evaluate setting a
    if operator = .and ∧ !v.isTrue ∨ operator = .or ∧ v.isTrue then return v
    let w ← evaluate setting b
    if literal then return .quotient v w
    Evaluation.at_ here (v.operate setting.compactly operator w)
  | .call name here arguments => do
    call setting name here (← evaluateAll setting arguments)

def evaluateAll (setting : Setting) : Expressions → Evaluation (List Given)
  | .done => return []
  | .more name e rest => do
    let v ← evaluate setting e
    return (name, v) :: (← evaluateAll setting rest)

end

end Folio.Style
