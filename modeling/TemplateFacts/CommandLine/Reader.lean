import TemplateFacts.CommandLine.Given

/-!
The reading of a command line, argument by argument.

A flag that takes its value from the next argument is settled only when another flag follows or
the arguments end, so what is wrong with its value is found late.
-/

namespace TemplateFacts.CommandLine

/-- An argument by its form. -/
inductive Form where
  /-- Two dashes, behind which nothing is a flag. -/
  | dashes
  | long (name : String) (value : Option String)
  | letters (cs : List Char)
  | plain
deriving DecidableEq, Repr

/-- The form of an argument. -/
def Form.of (argument : String) : Form :=
  -- A single dash is a plain argument.
  match argument.toList with
  | ['-', '-'] => .dashes
  | '-' :: '-' :: cs =>
    let name := String.ofList (cs.takeWhile (· != '='))
    match cs.dropWhile (· != '=') with
    | _ :: value => .long name (some (String.ofList value))
    | [] => .long name none
  | '-' :: c :: cs => .letters (c :: cs)
  | _ => .plain

/-- What is read so far at one level: what is given, and a flag whose value is not settled. -/
structure Reading where
  given : Given
  unsettled : Option (Flag × Option String)

namespace Reading

/-- Nothing is read. -/
def start : Reading := ⟨.nothing, none⟩

/-- Settles the flag whose value is not settled. -/
def settle (reading : Reading) : Except Fault Given :=
  -- It must have got a value by now.
  match reading.unsettled with
  | none => .ok reading.given
  | some (flag, none) => .error (.valueMissing flag)
  | some (flag, some value) => reading.given.give flag value

/-- Reads a flag with the value attached to it, if there is one. -/
def flag (flag : Flag) (value : Option String) (reading : Reading) : Except Fault Reading :=
  -- The flag before it is settled first.
  match flag.takesValue, value with
  | true, none => reading.settle.map fun given => ⟨given, some (flag, none)⟩
  | true, some value => do return ⟨← (← reading.settle).give flag value, none⟩
  | false, some value => .error (.unneededValue flag value)
  | false, none => do return ⟨← (← reading.settle).raise flag, none⟩

/-- Reads flags by their letters; one that takes a value takes all letters behind it. -/
def letters (level : Level) : List Char → Reading → Except Fault Reading
  -- A sign of equality before the value is left out.
  | [], reading => .ok reading
  | c :: cs, reading =>
    match level.letterFlag? c with
    | none => .error (.unknownArgument (String.ofList ['-', c]))
    | some known =>
      if known.takesValue then
        match cs with
        | [] => reading.flag known none
        | '=' :: value => reading.flag known (some (String.ofList value))
        | value => reading.flag known (some (String.ofList value))
      else do letters level cs (← reading.flag known none)

/-- Reads an argument, unless it is a plain one that is no value either. -/
def argument (level : Level) (argument : String) (reading : Reading) :
    Except Fault (Option Reading) :=
  -- A plain argument is the value of the flag right before it.
  match Form.of argument with
  | .long name value =>
    match level.longFlag? name with
    | some known => (reading.flag known value).map some
    | none => .error (.unknownArgument ("--" ++ name))
  | .letters cs => (reading.letters level cs).map some
  | _ =>
    match reading.unsettled with
    | some (flag, none) => .ok (some { reading with unsettled := some (flag, some argument) })
    | _ => .ok none

end Reading

/-- Reads the arguments behind a command. -/
def readBehind (level : Level) : Reading → List String → Except Fault Given
  -- Nothing but flags and their values may stand there.
  | reading, [] => reading.settle
  | reading, argument :: rest =>
    match Form.of argument with
    | .dashes =>
      match rest with
      | [] => reading.settle
      | next :: _ => .error (.unknownArgument next)
    | _ =>
      match reading.argument level argument with
      | .error fault => .error fault
      | .ok (some reading) => readBehind level reading rest
      | .ok none => .error (.unknownArgument argument)

/-- The word that asks for help as a command does. -/
def helpCommand : String := "help"

/-- The cause that a request for help about some commands ends with. -/
def helpFault : List String → Fault
  -- Commands have no commands of their own.
  | [] => .help
  | [name] =>
    if (Level.ofName? name).isSome || name == helpCommand then .help else .unknownCommand name
  | name :: next :: _ =>
    if (Level.ofName? name).isSome || name == helpCommand then .unknownCommand next
    else .unknownCommand name

/-- The cause that arguments behind two dashes at the top end with. -/
def dashedFault (given : Except Fault Given) : List String → Fault
  -- A command does not count there.
  | [] =>
    match given with
    | .error fault => fault
    | .ok given => if given == .nothing then .nothingGiven else .commandMissing
  | argument :: _ =>
    if (Level.ofName? argument).isSome || argument == helpCommand then .unknownArgument argument
    else .unknownCommand argument

/-- What is given before the command, the command, and what is given behind it. -/
structure Split where
  before : Given
  level : Level
  behind : Given

/-- Reads all arguments. -/
def readAll : Reading → List String → Except Fault Split
  -- What is given before the command is settled after all that is given behind it.
  | reading, [] => .error (dashedFault reading.settle [])
  | reading, argument :: rest =>
    let isValue := match reading.unsettled with
      | some (_, none) => true
      | _ => false
    match if isValue then none else Level.ofName? argument with
    | some level => do
      let behind ← readBehind level .start rest
      return ⟨← reading.settle, level, behind⟩
    | none =>
      if !isValue && argument == helpCommand then .error (helpFault rest)
      else match Form.of argument with
        | .dashes => .error (dashedFault reading.settle rest)
        | _ =>
          match reading.argument .top argument with
          | .error fault => .error fault
          | .ok (some reading) => readAll reading rest
          | .ok none => .error (.unknownCommand argument)

end TemplateFacts.CommandLine
