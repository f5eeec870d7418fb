import Folio.CommandLine.Similar
import Folio.Text.Number
import Folio.Text.Printable

/-!
# Arguments

The commands, their options, and how a list of arguments is read: `Invocation.ofArguments` answers
what to do, or a `UsageError` with the command that it concerns.
-/

namespace Folio.CommandLine

open Text

/-! ## Commands and options -/

/-- The name under which the program is called. -/
def programName : String := "cli"

def programVersion : String := "0.1.0"

inductive Flag
  | source
  | output
  | production
  | development
  | sandbox
  | silent
  | configuration
  | host
  | portNumber
  | version
  | help
  deriving DecidableEq, Repr

namespace Flag

def name : Flag → String
  | source => "--src"
  | output => "--dest"
  | production => "--production"
  | development => "--development"
  | sandbox => "--sandbox"
  | silent => "--silent"
  | configuration => "--config"
  | host => "--host"
  | portNumber => "--port"
  | version => "--version"
  | help => "--help"

/-- What a flag takes, as help names it; `none` if it takes nothing. -/
def parameter : Flag → Option String
  | source | output | configuration => some "PATH"
  | host => some "TEXT"
  | portNumber => some "INTEGER"
  | _ => none

def summary : Flag → String
  | source => "Source root"
  | output => "Output root"
  | production => "Fingerprinted, minified build"
  | development => "Plain names, symlinked assets"
  | sandbox => "Like development, flagged as sandbox"
  | silent => "Don't log every compiled file"
  | configuration => "Config file"
  | host => "Host to bind to"
  | portNumber => "Port to bind to"
  | version => "Show the version and exit."
  | help => "Show this message and exit."

/-- The flags of the program itself. -/
def ofProgram : List Flag := [version, help]

/-- The flags of every command. -/
def ofBuilds : List Flag :=
  [source, output, production, development, sandbox, silent, configuration]

end Flag

inductive Command
  | build
  | clean
  | routes
  | watch
  deriving DecidableEq, Repr

namespace Command

def all : List Command := [build, clean, routes, watch]

def name : Command → String
  | build => "build"
  | clean => "clean"
  | routes => "routes"
  | watch => "watch"

def summary : Command → String
  | build => "Clean and build the whole site."
  | clean => "Remove everything in the output tree."
  | routes => "Build, then print every route helper."
  | watch => "Build, then rebuild on change while serving the output."

def flags (c : Command) : List Flag :=
  Flag.ofBuilds ++ (if c = watch then [.host, .portNumber] else []) ++ [.help]

end Command

/-! ## Usage and help -/

/-- How the program, or one of its commands, is called. -/
def usageLine : Option Command → String
  | none => s!"Usage: {programName} [OPTIONS] COMMAND [ARGS]..."
  | some c => s!"Usage: {programName} {c.name} [OPTIONS]"

/-- Terms with their explanations, aligned. -/
def explained (rows : List (String × String)) : List String :=
  let width := (rows.map (·.1.length)).foldl max 0
  rows.map fun (term, text) =>
    "  " ++ term ++ String.ofList (List.replicate (width - term.length + 2) ' ') ++ text

def flagRows (flags : List Flag) : List (String × String) :=
  flags.map fun f => (" ".intercalate (f.name :: f.parameter.toList), f.summary)

/-- The help of the program or of a command. -/
def help : Option Command → List String
  | none =>
    [usageLine none, "", "  Pagesmith static site builder.", "",
      "  Run 'pagesmith build' to compile src/ into public/. Run 'pagesmith watch' to",
      "  rebuild on change and preview the result.", "", "Options:"]
      ++ explained (flagRows Flag.ofProgram)
      ++ ["", "Commands:"] ++ explained (Command.all.map fun c => (c.name, c.summary))
  | some c =>
    [usageLine (some c), "", "  " ++ c.summary, "", "Options:"] ++ explained (flagRows c.flags)

/-! ## Usage errors -/

inductive UsageError
  | noArguments
  | missingCommand
  | unknownCommand (name : String)
  | unknownFlag (name : String) (known : List Flag)
  | missingValue (flag : Flag)
  | unwantedValue (flag : Flag)
  | notNumber (flag : Flag) (value : String)
  | extraArguments (arguments : List String)
  deriving DecidableEq, Repr

namespace UsageError

/-- What a message adds about similar words. -/
def suggestion (word : String) (known : List String) : String :=
  match similarWords word known with
  | [] => ""
  | [w] => s!" Did you mean {quoteText w}?"
  | ws => " (Did you mean one of: " ++ ", ".intercalate (ws.map quoteText) ++ "?)"

def message : UsageError → String
  | noArguments => ""
  | missingCommand => "Missing command."
  | unknownCommand name =>
    s!"No such command {quoteText name}." ++ suggestion name (Command.all.map (·.name))
  | unknownFlag name known =>
    s!"No such option {quoteText name}." ++ suggestion name (known.map (·.name))
  | missingValue flag => s!"Option {quoteText flag.name} requires an argument."
  | unwantedValue flag => s!"Option {quoteText flag.name} does not take a value."
  | notNumber flag value =>
    s!"Invalid value for {quoteText flag.name}: {quoteText value} is not a valid integer."
  | extraArguments [a] => s!"Got unexpected extra argument ({a})"
  | extraArguments as => "Got unexpected extra arguments (" ++ " ".intercalate as ++ ")"

/-- Whether the message stands alone, without the usage. -/
def standsAlone : UsageError → Bool
  | missingValue _ | unwantedValue _ => true
  | _ => false

/-- The lines about an error in the arguments of the program or of a command. -/
def report (c : Option Command) (e : UsageError) : List String :=
  if e = noArguments then help c
  else if e.standsAlone then ["Error: " ++ e.message]
  else
    let called := " ".intercalate (programName :: (c.map (·.name)).toList)
    [usageLine c, s!"Try '{called} {Flag.help.name}' for help.", "", "Error: " ++ e.message]

end UsageError

/-! ## Reading arguments -/

/-- Flags with their values, in the order given, and what is left. -/
structure Arguments where
  flags : List (Flag × String)
  rest : List String
  deriving DecidableEq, Repr

namespace Arguments

def addFlag (flag : Flag) (value : String) (a : Arguments) : Arguments :=
  { a with flags := (flag, value) :: a.flags }

def addRest (argument : String) (a : Arguments) : Arguments :=
  { a with rest := argument :: a.rest }

/-- The last value of a flag. -/
def value? (a : Arguments) (flag : Flag) : Option String :=
  a.flags.reverse.lookup flag

/-- A flag's name and, after an equals sign, its value. -/
def splitValue (argument : String) : String × Option String :=
  let name := argument.toList.takeWhile (· ≠ '=')
  let rest := argument.toList.drop name.length
  (String.ofList name, if rest.isEmpty then none else some (String.ofList rest.tail))

/-- The error about a flag that is not known: of a short one only the first letter counts. -/
def unknown (known : List Flag) (argument : String) : UsageError :=
  match argument.toList with
  | '-' :: '-' :: _ => .unknownFlag (splitValue argument).1 known
  | dash :: c :: _ => .unknownFlag (String.ofList [dash, c]) []
  | _ => .unknownFlag argument known

/-- Reads flags wherever they stand, or only those before the first other argument. -/
def read (known : List Flag) (everywhere : Bool) : List String → Except UsageError Arguments
  | [] => .ok ⟨[], []⟩
  | argument :: rest =>
    if argument = "--" then .ok ⟨[], rest⟩
    else if ['-'].isPrefixOf argument.toList && argument ≠ "-" then
      let (name, value) := splitValue argument
      match known.find? (·.name == name) with
      | none => .error (unknown known argument)
      | some flag =>
        match flag.parameter, value, rest with
        | none, none, rest => (read known everywhere rest).map (addFlag flag "")
        | none, some _, _ => .error (.unwantedValue flag)
        | some _, some value, rest => (read known everywhere rest).map (addFlag flag value)
        | some _, none, value :: rest => (read known everywhere rest).map (addFlag flag value)
        | some _, none, [] => .error (.missingValue flag)
    else if everywhere then (read known everywhere rest).map (addRest argument)
    else .ok ⟨[], argument :: rest⟩

/-- The first flag that asks for information only. -/
def inquiry (a : Arguments) : Option Flag :=
  (a.flags.map (·.1)).find? fun f => f == .version || f == .help

end Arguments

/-- What to do. -/
inductive Invocation
  | version
  | help (command : Option Command)
  | run (command : Command) (arguments : Arguments)
  deriving DecidableEq, Repr

namespace Invocation

abbrev Read := Except (Option Command × UsageError)

/-- The numbers among the flags have to be numbers. -/
def checkNumbers (a : Arguments) : Except UsageError Unit :=
  match (a.value? .portNumber).map fun value => (value, integer? value) with
  | some (value, none) => .error (.notNumber .portNumber value)
  | _ => .ok ()

/-- Reads the arguments of a command. -/
def ofCommand (c : Command) (arguments : List String) : Except UsageError Invocation := do
  let a ← Arguments.read c.flags true arguments
  if a.inquiry.isSome then return .help c
  checkNumbers a
  if a.rest ≠ [] then throw (.extraArguments a.rest)
  return .run c a

/-- What a flag of the program asks for. -/
def ofInquiry : Flag → Invocation
  | .version => .version
  | _ => .help none

/-- Reads what is left after the flags of the program. -/
def ofRest : List String → Read Invocation
  | [] => .error (none, .missingCommand)
  | name :: arguments =>
    match Command.all.find? (·.name == name) with
    | some c => (ofCommand c arguments).mapError fun e => (some c, e)
    | none => do
      if ['-'].isPrefixOf name.toList then
        let a ← (Arguments.read Flag.ofProgram false (name :: arguments)).mapError (none, ·)
        if let some flag := a.inquiry then return ofInquiry flag
      throw (none, .unknownCommand name)

/-- What some arguments ask for. -/
def ofArguments (arguments : List String) : Read Invocation := do
  if arguments.isEmpty then throw (none, .noArguments)
  let a ← (Arguments.read Flag.ofProgram false arguments).mapError (none, ·)
  match a.inquiry with
  | some flag => return ofInquiry flag
  | none => ofRest a.rest

end Invocation

end Folio.CommandLine
