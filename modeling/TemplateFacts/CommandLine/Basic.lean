import TemplateFacts.CommandLine.Reader

/-! Command lines as what they ask for. -/

namespace TemplateFacts.CommandLine

/-- What a run generates facts from, and where it writes them. -/
structure Target where
  input : Path
  output : Option Path
  generatedAt : Option String
deriving DecidableEq, Repr

/-- What a command asks for. -/
inductive Task where
  | generate (target : Target)
  | compilerVersion
deriving DecidableEq, Repr

/-- How much is logged. -/
inductive LogLevel where
  | warn
  | info
  | debug
  | trace
deriving DecidableEq, Repr

/-- The name of a level of logging. -/
def LogLevel.text : LogLevel → String
  | .warn => "WARN"
  | .info => "INFO"
  | .debug => "DEBUG"
  | .trace => "TRACE"

/-- All that a command line asks for. -/
structure Invocation where
  task : Task
  /-- The file of settings. -/
  config : Option Path
  overrides : Settings.Overrides
  verbose : Nat
  logFilter : Option String
deriving DecidableEq, Repr

/-- How much is logged for a number of flags. -/
def Invocation.logLevel (invocation : Invocation) : LogLevel :=
  -- Each flag raises the level by one.
  match invocation.verbose with
  | 0 => .warn
  | 1 => .info
  | 2 => .debug
  | _ => .trace

/-- The directory that is searched when none is given. -/
def defaultInput : Path := ⟨"."⟩

/-- What given flags ask for. -/
def Split.invocation (split : Split) : Invocation where
  task :=
    if split.level == .generate then
      .generate ⟨split.behind.input.getD defaultInput, split.behind.output,
        split.behind.generatedAt⟩
    else .compilerVersion
  config := split.behind.config <|> split.before.config
  overrides := {
    compilerPath := split.behind.compilerPath
    componentIdFrom := split.behind.componentIdFrom
    schemaPath := split.behind.schema
    continueOnError := if split.behind.continueOnError then some true else none }
  verbose := split.behind.verbose
  logFilter := split.behind.logFilter

/-- Reads a command line, given the arguments behind the program's name. -/
def read (arguments : List String) : Except Fault Invocation :=
  (readAll .start arguments).map Split.invocation

end TemplateFacts.CommandLine
