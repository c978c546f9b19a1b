import TemplateFacts.CommandLine.Flag
import TemplateFacts.Generation
import TemplateFacts.Settings.Basic

/-! The flags given at one level of a command line, and their values. -/

namespace TemplateFacts.CommandLine

/-- What is given so far. -/
structure Given where
  config : Option Path
  input : Option Path
  output : Option Path
  componentIdFrom : Option ComponentIdSource
  generatedAt : Option String
  compilerPath : Option Path
  schema : Option Path
  continueOnError : Bool
  verbose : Nat
  logFilter : Option String
deriving DecidableEq, Repr

/-- The greatest number of times that a flag is counted. -/
def greatestCount : Nat := 255

namespace Given

/-- Nothing is given. -/
def nothing : Given :=
  ⟨none, none, none, none, none, none, none, false, 0, none⟩

/-- Reads a path that must not be empty. -/
def readPath (flag : Flag) (value : String) : Except Fault Path :=
  if value == "" then .error (.valueMissing flag) else .ok ⟨value⟩

/-- Reads the name of a source of component ids. -/
def readSource (flag : Flag) (value : String) : Except Fault ComponentIdSource :=
  -- An empty name counts as none.
  match ComponentIdSource.ofText? value with
  | some source => .ok source
  | none =>
    if value == "" then .error (.valueMissing flag) else .error (.unknownValue flag value)

/-- Reads a stamp. -/
def readStamp (flag : Flag) (value : String) : Except Fault String :=
  (Generation.checkedStamp value).mapError fun e => .refusedValue flag value e.message

/-- Fills a place that must still be empty. -/
def fill {α : Type} (flag : Flag) (read : Flag → String → Except Fault α) (value : String)
    (place : Option α) : Except Fault (Option α) :=
  -- A second value is refused before it is read.
  if place.isSome then .error (.repeated flag) else (read flag value).map some

/-- Gives a value to a flag that takes one. -/
def give (flag : Flag) (value : String) (given : Given) : Except Fault Given :=
  -- Flags without a value change nothing here.
  match flag with
  | .config =>
    (fill flag readPath value given.config).map fun config => { given with config }
  | .input =>
    (fill flag readPath value given.input).map fun input => { given with input }
  | .output =>
    (fill flag readPath value given.output).map fun output => { given with output }
  | .componentIdFrom =>
    (fill flag readSource value given.componentIdFrom).map fun componentIdFrom =>
      { given with componentIdFrom }
  | .generatedAt =>
    (fill flag readStamp value given.generatedAt).map fun generatedAt =>
      { given with generatedAt }
  | .compilerPath =>
    (fill flag readPath value given.compilerPath).map fun compilerPath =>
      { given with compilerPath }
  | .schema =>
    (fill flag readPath value given.schema).map fun schema => { given with schema }
  | .logFilter =>
    (fill flag (fun _ s => .ok s) value given.logFilter).map fun logFilter =>
      { given with logFilter }
  | _ => .ok given

/-- Raises a flag that takes no value. -/
def raise (flag : Flag) (given : Given) : Except Fault Given :=
  -- Help and the version end the reading.
  match flag with
  | .help => .error .help
  | .version => .error .version
  | .verbose => .ok { given with verbose := min (given.verbose + 1) greatestCount }
  | .continueOnError =>
    if given.continueOnError then .error (.repeated flag)
    else .ok { given with continueOnError := true }
  | _ => .ok given

end Given

end TemplateFacts.CommandLine
