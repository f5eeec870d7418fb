import Folio.Style.Lexeme
import Folio.Text.Location

/-!
# Problems of stylesheets

What a stylesheet is refused for, at a location of a file. A sheet that cannot be read names the
characters around the place where the reader stopped.
-/

namespace Folio.Style

open Text

/-- What the reader wanted where it stopped, and the characters before and behind. -/
structure Surprise where
  wanted : String
  before : String
  behind : String
  deriving DecidableEq, Repr

inductive Problem
  | surprise (s : Surprise)
  | notText
  | noValue (property : String)
  | noColon (what : String)
  | unclosed (what : String)
  | emptyValue
  | emptyCustom
  | badLink
  | tooDeep
  | undefinedVariable (name : String)
  | importNotFound (name : String)
  | importUnclear (name : String) (candidates : List String)
  | importLoop
  | unlikeUnits (a b : String)
  | badOperation (a name b : String)
  | nullOperation (a name b : String)
  | notPlain (value : String)
  | missingArgument (function argument : String)
  | tooManyArguments (function : String) (given taken : Nat)
  | noParameter (function name : String)
  | noOverload (function : String)
  | namedArgument (function : String)
  | notANumber (argument signature : String)
  | notAColor (argument signature : String)
  | functionFailed (name : String)
  deriving DecidableEq, Repr

structure Defect where
  problem : Problem
  at_ : Location
  deriving DecidableEq, Repr

/-! ## Quotes -/

/-- The quote to put around a text: single ones if it holds double ones alone, and else double
ones, or the one that is preferred. -/
def bestQuote (preferred : Char) (s : List Char) : Char :=
  if s.contains '\'' then '"' else if s.contains '"' then '\'' else preferred

/-- A text inside quotes. A line end becomes an escape, which needs a space before what might
belong to it. -/
def quoteChars (quote : Char) : List Char → List Char
  | [] => []
  | '\r' :: '\n' :: r => quoteChars quote ('\n' :: r)
  | c :: r =>
    if c = '\n' then
      let gap := r.head?.any fun d => isHexDigit d || isSpace d
      '\\' :: 'a' :: (if gap then [' '] else []) ++ quoteChars quote r
    else if c = quote ∨ c = '\\' then '\\' :: c :: quoteChars quote r
    else c :: quoteChars quote r

/-- A text in quotes. -/
def inQuotes (preferred : Char) (s : String) : String :=
  let quote := bestQuote preferred s.toList
  String.ofList (quote :: quoteChars quote s.toList ++ [quote])

/-! ## Messages -/

def Problem.message : Problem → String
  | surprise s =>
    "Invalid CSS after " ++ inQuotes '"' s.before ++ ": expected " ++ s.wanted ++ ", was "
      ++ inQuotes '"' s.behind
  | notText => "Invalid UTF-8 sequence"
  | noValue property => "property \"" ++ property ++ "\" must be followed by a ':'"
  | noColon what => "expected ':' after " ++ what ++ " in assignment statement"
  | unclosed what => "unclosed " ++ what
  | emptyValue => "style declaration must contain a value"
  | emptyCustom => "Custom property values may not be empty."
  | badLink => "@import directive requires a url or quoted path"
  | tooDeep => "Code too deeply nested"
  | undefinedVariable name => s!"Undefined variable: \"${name}\"."
  | importNotFound name => s!"File to import not found or unreadable: {name}."
  | importUnclear name candidates =>
    "It's not clear which file to import for '@import \"" ++ name ++ "\"'.\nCandidates:\n"
      ++ String.join (candidates.map fun c => "  " ++ c ++ "\n")
      ++ "Please delete or rename all but one of these files."
  | importLoop => "An @import loop has been found:"
  | unlikeUnits a b => s!"Incompatible units: '{a}' and '{b}'."
  | badOperation a name b => s!"Undefined operation: \"{a} {name} {b}\"."
  | nullOperation a name b => s!"Invalid null operation: \"{a} {name} {b}\"."
  | notPlain value => s!"{value} isn't a valid CSS value."
  | missingArgument function argument => s!"Function {function} is missing argument {argument}."
  | tooManyArguments function given taken =>
    s!"wrong number of arguments ({given} for {taken}) for `{function}'"
  | noParameter function name => s!"Function {function} has no parameter named {name}"
  | noOverload function =>
    s!"overloaded function `{function}` given wrong number of arguments"
  | namedArgument function => s!"Function {function} doesn't support keyword arguments"
  | notAColor argument signature => s!"argument `{argument}` of `{signature}` must be a color"
  | notANumber argument signature => s!"argument `{argument}` of `{signature}` must be a number"
  | functionFailed name => s!"error in C function {name}: \n"

/-- The report of a problem at a location of a file. -/
def Defect.report (d : Defect) (file : String) : String :=
  "Error: " ++ d.problem.message ++ "\n        on line "
    ++ s!"{d.at_.line}:{d.at_.column} of {file}\n"

/-! ## Where a reader stopped -/

/-- How many characters around a place a message names at most. -/
def excerptLength : Nat := 18

/-- The last part of a long text, behind an ellipsis. -/
def shortened (s : List Char) : List Char :=
  if s.length ≤ 15 then s else "...".toList ++ s.drop (s.length - 15)

/-- The characters around a place, of which those before come last first. -/
def Surprise.around (wanted : String) (before rest : List Char) : Surprise :=
  let isEnd (c : Char) : Bool := c == '\n' || c == '\r'
  let gap := rest.takeWhile isSpace
  let behind := (rest.drop gap.length).takeWhile (!isEnd ·)
  let last := (gap.reverse ++ before).dropWhile isSpace
  let line := last.takeWhile (!isEnd ·)
  let left := (line.take excerptLength).reverse
  let long := excerptLength < line.length || excerptLength < behind.length
  ⟨wanted, String.ofList (if long then shortened left else left),
    String.ofList (behind.take (excerptLength + 1))⟩

end Folio.Style
