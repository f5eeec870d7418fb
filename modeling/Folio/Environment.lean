import Folio.Text.Blank
import Folio.Text.Case

/-!
# Build modes

A site is built in one of three modes, or in a mode of another name, which means nothing of its
own. `Environment.choose` picks one of the three from an explicit choice, a variable and a setting;
the first that is given decides, and an unknown one falls back to development.
-/

namespace Folio

inductive Environment
  | development
  | production
  | sandbox
  | other (name : String)
  deriving DecidableEq, Repr

namespace Environment

def name : Environment → String
  | development => "development"
  | production => "production"
  | sandbox => "sandbox"
  | other name => name

/-- The modes that mean something. -/
def all : List Environment :=
  [development, production, sandbox]

/-- The mode of exactly this name. -/
def ofName (name : String) : Environment :=
  (all.find? (·.name == name)).getD (other name)

/-- The name of the variable that may choose the mode. -/
def variableName : String := "PAGESMITH_ENV"

/-- The mode that a text names, whatever its case and the blanks around it. -/
def parse? (value : String) : Option Environment :=
  let value := Text.lower (Text.trim value)
  all.find? (·.name == value)

def unknownMessage (value : String) : String :=
  s!"Unknown build mode '{value}', expected one of: " ++ ", ".intercalate (all.map name)

/-- The mode, and a warning if the first given choice is unknown. -/
def choose (choices : List (Option String)) : Environment × Option String :=
  match choices.find? fun choice => choice.any (· ≠ "") with
  | some (some value) =>
    match parse? value with
    | some mode => (mode, none)
    | none =>
      (development, some (unknownMessage value ++ s!"; falling back to '{development.name}'"))
  | _ => (development, none)

end Environment

end Folio
