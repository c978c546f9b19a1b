/-! The flags of the command line, and what ends its reading before there is anything to run. -/

namespace TemplateFacts.CommandLine

/-- A flag of the command line. -/
inductive Flag where
  | config
  | input
  | output
  | componentIdFrom
  | generatedAt
  | compilerPath
  | schema
  | continueOnError
  | verbose
  | logFilter
  | help
  | version
deriving DecidableEq, Repr

namespace Flag

/-- The long name of a flag. -/
def long : Flag → String
  | .config => "config"
  | .input => "in"
  | .output => "out"
  | .componentIdFrom => "component-id-from"
  | .generatedAt => "generated-at"
  | .compilerPath => "bicep-path"
  | .schema => "schema"
  | .continueOnError => "continue-on-error"
  | .verbose => "verbose"
  | .logFilter => "log-filter"
  | .help => "help"
  | .version => "version"

/-- The letter of a flag that has one. -/
def letter? : Flag → Option Char
  | .config => some 'c'
  | .verbose => some 'v'
  | .help => some 'h'
  | .version => some 'V'
  | _ => none

/-- What the value of a flag is called, if it takes one. -/
def valueName? : Flag → Option String
  -- The other flags are only present or absent.
  | .config => some "FILE"
  | .input => some "DIR"
  | .output => some "DIR"
  | .componentIdFrom => some "SOURCE"
  | .generatedAt => some "ISO"
  | .compilerPath => some "PATH"
  | .schema => some "FILE"
  | .logFilter => some "LOG_FILTER"
  | _ => none

/-- The flag takes a value. -/
def takesValue (flag : Flag) : Bool := flag.valueName?.isSome

/-- The flag as messages show it. -/
def shown (flag : Flag) : String :=
  -- A flag that may be repeated is followed by dots.
  match flag.valueName? with
  | some name => s!"--{flag.long} <{name}>"
  | none => if flag == .verbose then s!"--{flag.long}..." else s!"--{flag.long}"

end Flag

/-- Where flags are given: before the command, or behind one of the commands. -/
inductive Level where
  | top
  | generate
  | compilerVersion
deriving DecidableEq, Repr

namespace Level

/-- The command of a level, which the top has not. -/
def name? : Level → Option String
  | .top => none
  | .generate => some "generate"
  | .compilerVersion => some "compiler-version"

/-- The flags that are known at a level. -/
def flags : Level → List Flag
  -- The file of settings can be named everywhere.
  | .top => [.config, .help, .version]
  | .generate => [.input, .output, .componentIdFrom, .generatedAt, .compilerPath, .schema,
      .continueOnError, .verbose, .logFilter, .config, .help]
  | .compilerVersion => [.compilerPath, .verbose, .logFilter, .config, .help]

/-- The flag of a long name. -/
def longFlag? (level : Level) (name : String) : Option Flag :=
  level.flags.find? fun flag => flag.long == name

/-- The flag of a letter. -/
def letterFlag? (level : Level) (c : Char) : Option Flag :=
  level.flags.find? fun flag => flag.letter? == some c

/-- The level of a command. -/
def ofName? (name : String) : Option Level :=
  [generate, compilerVersion].find? fun level => level.name? == some name

end Level

/-- The name of the program. -/
def programName : String := "bicep-facts"

/-- The number of the program's version. -/
def programVersion : String := "0.1.0"

/-- What the program is for. -/
def purpose : String :=
  "Deterministic facts extraction for Bicep templates via the Bicep JSON-RPC compiler"

/-- The cause that ends the reading of a command line. -/
inductive Fault where
  /-- Help is asked for. -/
  | help
  /-- The program's version is asked for. -/
  | version
  /-- Nothing at all is given. -/
  | nothingGiven
  | commandMissing
  | unknownCommand (name : String)
  | unknownArgument (shown : String)
  | valueMissing (flag : Flag)
  /-- A value is none of those that there are to choose from. -/
  | unknownValue (flag : Flag) (value : String)
  /-- A value is refused, with the reason. -/
  | refusedValue (flag : Flag) (value reason : String)
  | repeated (flag : Flag)
  /-- A value is given to a flag that takes none. -/
  | unneededValue (flag : Flag) (value : String)
deriving DecidableEq, Repr

namespace Fault

/-- What is said about the cause. -/
def message : Fault → String
  -- Only the first three are not introduced as errors.
  | .help => purpose
  | .version => s!"{programName} {programVersion}"
  | .nothingGiven => purpose
  | .commandMissing => s!"error: '{programName}' requires a subcommand but one was not provided"
  | .unknownCommand name => s!"error: unrecognized subcommand '{name}'"
  | .unknownArgument shown => s!"error: unexpected argument '{shown}' found"
  | .valueMissing flag => s!"error: a value is required for '{flag.shown}' but none was supplied"
  | .unknownValue flag value => s!"error: invalid value '{value}' for '{flag.shown}'"
  | .refusedValue flag value reason =>
    s!"error: invalid value '{value}' for '{flag.shown}': {reason}"
  | .repeated flag => s!"error: the argument '{flag.shown}' cannot be used multiple times"
  | .unneededValue flag value =>
    s!"error: unexpected value '{value}' for '{flag.shown}' found; no more were expected"

/-- The cause is a request that is granted, and no error. -/
def isRequest : Fault → Bool
  | .help => true
  | .version => true
  | _ => false

end Fault

end TemplateFacts.CommandLine
