import Folio.FileTree.Operation
import Folio.Text.Literal

/-!
# Problems with a configuration

Why a configuration cannot be loaded, and the message about it.
-/

namespace Folio

open Text

inductive ConfigurationProblem
  | badLine (line : Nat)
  | openString (line : Nat)
  | openText (first last : Nat)
  | openBracket (opener : Char) (line : Nat)
  | strayCloser (closer : Char) (line : Nat)
  | otherCloser (closer opener : Char) (line : Nat)
  | strayCharacter (c : Char) (line : Nat)
  | indented (line : Nat)
  | afterBackslash (line : Nat)
  | unfinished (line : Nat)
  | badEscape (e : BadEscape) (line : Nat)
  | mixedStrings (line : Nat)
  | foreignByte (line : Nat)
  /-- A number in some base that is written badly. -/
  | badNumber (base : String) (line : Nat)
  | badDigit (digit : Char) (base : String) (line : Nat)
  | leadingZeros (line : Nat)
  | tooManyDigits (count line : Nat)
  /-- A value, or a name that stands for one, was given a value. -/
  | assignedName (name : String) (line : Nat)
  | assignedValue (what : String) (isFirst : Bool) (line : Nat)
  | unknownName (name : String)
  | wrongOperand (sign type : String)
  | emptyCharacter
  | unknownEncoding (name : String)
  | otherEncoding (name : String)
  | undecodable (reason : String)
  | file (problem : FileProblem) (path : Path)
  deriving DecidableEq, Repr

namespace ConfigurationProblem

/-- A character as messages tell of it. -/
def told (c : Char) : String :=
  let digits := (Nat.toDigits 16 c.toNat).map upperAscii
  let number := "U+" ++ String.ofList (List.replicate (4 - digits.length) '0' ++ digits)
  if isPrintable c then "invalid character '" ++ String.singleton c ++ "' (" ++ number ++ ")"
  else "invalid non-printable character " ++ number

/-- What is told of an escape, with its place. -/
def escapeText (e : BadEscape) : String :=
  s!"(unicode error) 'unicodeescape' codec can't decode bytes in position {e.start}-"
    ++ s!"{e.start + e.length - 1}: {e.flaw.message}"

/-- What is told of a problem, and the line if one is told. -/
def parts : ConfigurationProblem → String × Option Nat
  | badLine line => ("invalid syntax", some line)
  | openString line => (s!"unterminated string literal (detected at line {line})", some line)
  | openText first last =>
    (s!"unterminated triple-quoted string literal (detected at line {last})", some first)
  | openBracket opener line => (s!"'{opener}' was never closed", some line)
  | strayCloser closer line => (s!"unmatched '{closer}'", some line)
  | otherCloser closer opener line =>
    (s!"closing parenthesis '{closer}' does not match opening parenthesis '{opener}'", some line)
  | strayCharacter c line => (told c, some line)
  | indented line => ("unexpected indent", some line)
  | afterBackslash line => ("unexpected character after line continuation character", some line)
  | unfinished line => ("unexpected EOF while parsing", some line)
  | badEscape e line => (escapeText e, some line)
  | mixedStrings line => ("cannot mix bytes and nonbytes literals", some line)
  | foreignByte line => ("bytes can only contain ASCII literal characters", some line)
  | badNumber base line => (s!"invalid {base} literal", some line)
  | badDigit digit base line => (s!"invalid digit '{digit}' in {base} literal", some line)
  | leadingZeros line =>
    ("leading zeros in decimal integer literals are not permitted; "
      ++ "use an 0o prefix for octal integers", some line)
  | tooManyDigits count line =>
    ("Exceeds the limit (4300 digits) for integer string conversion: "
      ++ s!"value has {count} digits; use sys.set_int_max_str_digits() to increase the limit"
      ++ " - Consider hexadecimal for huge integer literals to avoid decimal conversion limits.",
      some line)
  | assignedName name line => (s!"cannot assign to {name}", some line)
  | assignedValue what isFirst line =>
    (s!"cannot assign to {what}"
      ++ (if isFirst then " here. Maybe you meant '==' instead of '='?" else ""), some line)
  | unknownName name => (s!"name '{name}' is not defined", none)
  | wrongOperand sign type => (s!"bad operand type for unary {sign}: '{type}'", none)
  | emptyCharacter => ("source code string cannot contain null bytes", none)
  | unknownEncoding name => (s!"unknown encoding: {name}", some 0)
  | otherEncoding name => (s!"encoding problem: {name} with BOM", some 0)
  | undecodable reason => (s!"(unicode error) {reason}", some 1)
  | file problem path => (problem.fullMessage path, none)

/-- The message about a problem in a file of some name. -/
def message (fileName : String) (p : ConfigurationProblem) : String :=
  match p.parts with
  | (text, some line) => s!"{text} ({fileName}, line {line})"
  | (text, none) => text

end ConfigurationProblem

end Folio
