import Folio.Text.Location
import Folio.Text.Printable

/-!
# Faults in sources

What can be wrong with a script, a stylesheet or a page template. A `Cause` says what, a `Fault`
also says where; `Cause.message` and `Fault.text` hold the wording.
-/

namespace Folio

open Text

/-- What is wrong with a sequence of bytes that should be text. -/
inductive ByteFlaw
  | badStart
  | badContinuation
  | truncated
  deriving DecidableEq, Repr

def ByteFlaw.message : ByteFlaw → String
  | badStart => "invalid start byte"
  | badContinuation => "invalid continuation byte"
  | truncated => "unexpected end of data"

/-- What a template reader is looking for: the tags that may end each open construct, innermost
first, and the tags that began those constructs. -/
structure TagContext where
  awaited : List (List String)
  opened : List String
  deriving DecidableEq, Repr

namespace TagContext

def quotedNames (separator : String) (names : List String) : String :=
  separator.intercalate (names.map quoteText)

/-- What a message adds about the tags that were looked for. -/
def hints (c : TagContext) (name : Option String) : List String :=
  let looking := c.awaited.head?.map fun tags =>
    let tags := quotedNames " or " tags
    if name.any fun n => c.awaited.any (·.contains n) then
      "You probably made a nesting mistake. Jinja is expecting this tag, but currently looking for "
        ++ tags ++ "."
    else "Jinja was looking for the following tags: " ++ tags ++ "."
  let innermost := c.opened.head?.map fun tag =>
    "The innermost block that needs to be closed is " ++ quoteText tag ++ "."
  looking.toList ++ innermost.toList

end TagContext

/-- What was found instead of a known tag. -/
def tagFound : Option String → String
  | none => "Unexpected end of template."
  | some name => "Encountered unknown tag " ++ quoteText name ++ "."

inductive Cause
  /-- A message of another tool, kept as it is. -/
  | reported (text : String)
  | unexpectedCharacter (c : Char)
  | unclosed (opener : String)
  | unexpectedCloser (closer : String)
  | mismatched (expected opener found : String)
  | unclosedCall (callee : String)
  | emptyArgument
  | missingArgument (helper : String)
  | tooManyArguments (helper : String) (count : Nat)
  | notLiteral (helper raw : String)
  | invalidByte (byte : Nat) (flaw : ByteFlaw)
  | missingExpression (found : String)
  | unexpectedToken (found : String)
  | expectedToken (wanted found : String)
  | unexpectedEnd (wanted : String)
  | expectedMember
  | missingTagName
  | hyphenInName
  | strayCharacter (c : Char) (position : Nat)
  | strayBracket (found expected : String)
  | unfitName
  /-- A number with too many digits to be read, or, without a count, to be written. -/
  | tooManyDigits (count : Option Nat)
  | unclosedComment
  | unclosedRaw
  /-- A tag, or the end of the template, where another tag was looked for. -/
  | unknownTag (name : Option String) (context : TagContext)
  | blockTwice (name : String)
  | unknownFilter (name : String)
  | unknownFilterUsed (name : String)
  | nestedExtends
  | extendedTwice
  | templateNotFound (name : String)
  /-- None of the templates of a table was found. -/
  | noTemplateOf
  | undefinedValue (what : String)
  | divisionByZero
  | realDivisionByZero
  | tooLargeQuotient
  | tooLargeInteger
  | wrongOperand (sign type : String)
  | wrongOperands (left right : String)
  | notCallable (type : String)
  | notIterable (type : String)
  | notWhole (type : String)
  /-- A function of one argument was given none. -/
  | noArgument (function argument : String)
  /-- A function of one argument was given more. -/
  | furtherArguments (function : String) (count : Nat)
  /-- Too few arguments, or too many, for a function of a range of counts. -/
  | argumentCount (function bound : String) (wanted count : Nat)
  | zeroStep
  | undecodable (reason : String)
  | embeddedNull
  | endlessNesting
  | cannotInline (name reason : String)
  deriving DecidableEq, Repr

namespace Cause

def message : Cause → String
  | reported text => text
  | unexpectedCharacter c => "Unexpected character " ++ quoteChar c
  | unclosed opener => s!"Unclosed '{opener}'"
  | unexpectedCloser closer => s!"Unexpected '{closer}'"
  | mismatched expected opener found =>
    s!"Expected '{expected}' to close '{opener}' but found '{found}'"
  | unclosedCall callee => s!"Unclosed '(' in call to {callee}"
  | emptyArgument => "Empty argument"
  | missingArgument helper => s!"{helper}() requires a path argument"
  | tooManyArguments helper count => s!"{helper}() takes exactly one argument, got {count}"
  | notLiteral helper raw => s!"{helper}() argument must be a string literal, got {raw}"
  | invalidByte byte flaw =>
    "Invalid UTF-8 byte b'\\x" ++ String.ofList (hexDigits 2 byte) ++ "': " ++ flaw.message
  | missingExpression found => s!"Expected an expression, got '{found}'"
  | unexpectedToken found => s!"unexpected '{found}'"
  | expectedToken wanted found => s!"expected token '{wanted}', got '{found}'"
  | unexpectedEnd wanted => s!"unexpected end of template, expected '{wanted}'."
  | expectedMember => "expected name or number"
  | missingTagName => "tag name expected"
  | hyphenInName =>
    "Block names in Jinja have to be valid Python identifiers and may not contain hyphens, "
      ++ "use an underscore instead."
  | strayCharacter c position => s!"unexpected char {quoteChar c} at {position}"
  | strayBracket found expected => s!"unexpected '{found}', expected '{expected}'"
  | unfitName => "Invalid character in identifier"
  | tooManyDigits count =>
    "ValueError: Exceeds the limit (4300 digits) for integer string conversion"
      ++ count.elim "" (fun n => s!": value has {n} digits")
      ++ "; use sys.set_int_max_str_digits() to increase the limit"
  | unclosedComment => "Missing end of comment tag"
  | unclosedRaw => "Missing end of raw directive"
  | unknownTag name context => " ".intercalate (tagFound name :: context.hints name)
  | blockTwice name => s!"block '{name}' defined twice"
  | unknownFilter name => s!"No filter named '{name}'."
  | unknownFilterUsed name => s!"TemplateRuntimeError: No filter named '{name}' found."
  | nestedExtends => "cannot use extend from a non top-level scope"
  | extendedTwice => "TemplateRuntimeError: extended multiple times"
  | templateNotFound name => s!"Template not found: {name}"
  | noTemplateOf => "KeyError: -1"
  | undefinedValue what => s!"UndefinedError: {what}"
  | divisionByZero => "ZeroDivisionError: division by zero"
  | realDivisionByZero => "ZeroDivisionError: float division by zero"
  | tooLargeQuotient => "OverflowError: integer division result too large for a float"
  | tooLargeInteger => "OverflowError: int too large to convert to float"
  | wrongOperand sign type => s!"TypeError: bad operand type for unary {sign}: '{type}'"
  | wrongOperands left right =>
    s!"TypeError: unsupported operand type(s) for /: '{left}' and '{right}'"
  | notCallable type => s!"TypeError: '{type}' object is not callable"
  | notIterable type => s!"TypeError: '{type}' object is not iterable"
  | notWhole type => s!"TypeError: '{type}' object cannot be interpreted as an integer"
  | noArgument function argument =>
    s!"TypeError: {function}() missing 1 required positional argument: '{argument}'"
  | furtherArguments function count =>
    s!"TypeError: {function}() takes 1 positional argument but {count} were given"
  | argumentCount function bound wanted count =>
    s!"TypeError: {function} expected at {bound} {wanted} argument"
      ++ (if wanted = 1 then "" else "s") ++ s!", got {count}"
  | zeroStep => "ValueError: range() arg 3 must not be zero"
  | undecodable reason => s!"UnicodeDecodeError: {reason}"
  | embeddedNull => "ValueError: embedded null byte"
  | endlessNesting => "RecursionError: maximum recursion depth exceeded"
  | cannotInline name reason => s!"Cannot inline {name}: {reason}"

/-- Whether a path helper was called without a single literal. -/
def isMisuse : Cause → Bool
  | missingArgument _ | tooManyArguments _ _ | notLiteral _ _ => true
  | _ => false

end Cause

/-- A cause with the file it concerns (empty if unknown), its line and its column (zero if
unknown). -/
structure Fault where
  cause : Cause
  file : String
  line : Int
  column : Int
  deriving DecidableEq, Repr

/-- The message with as much of the location as is known. -/
def Fault.text (f : Fault) : String :=
  if f.file ≠ "" ∧ f.line ≠ 0 then s!"{f.file}:{f.line}:{f.column}: {f.cause.message}"
  else if f.file ≠ "" then s!"{f.file}: {f.cause.message}"
  else f.cause.message

end Folio
