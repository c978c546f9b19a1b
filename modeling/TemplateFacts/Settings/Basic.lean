import TemplateFacts.Error
import TemplateFacts.Settings.Convert

/-! The settings of a run, read from the values of a configuration. -/

namespace TemplateFacts

/-- How the compiler is started. -/
structure CompilerSettings where
  path : Path
  /-- What stands before the compiler's own arguments. -/
  args : List String
  /-- How many seconds the compiler may take to connect. -/
  connectTimeout : Nat
deriving DecidableEq, Repr

/-- How facts are generated. -/
structure GenerateSettings where
  componentIdFrom : ComponentIdSource
  /-- The contract in the place of the bundled one. -/
  schemaPath : Option Path
  /-- Failures of single files are counted, and end the run only when it is over. -/
  continueOnError : Bool
deriving DecidableEq, Repr

/-- All settings. -/
structure Settings where
  compiler : CompilerSettings
  generate : GenerateSettings
deriving DecidableEq, Repr

namespace Settings

/-- Settings that are put over all others, where they are given. -/
structure Overrides where
  compilerPath : Option Path
  componentIdFrom : Option ComponentIdSource
  schemaPath : Option Path
  continueOnError : Option Bool
deriving DecidableEq, Repr

/-- The settings with some of them put over. -/
def overriddenBy (overrides : Overrides) (settings : Settings) : Settings where
  compiler := { settings.compiler with
    path := overrides.compilerPath.getD settings.compiler.path }
  generate := {
    componentIdFrom := overrides.componentIdFrom.getD settings.generate.componentIdFrom
    schemaPath := overrides.schemaPath <|> settings.generate.schemaPath
    continueOnError := overrides.continueOnError.getD settings.generate.continueOnError }

/-- The settings, if a compiler is named and has time to connect. -/
def checked (settings : Settings) : Except Error Settings :=
  -- The name is looked at first.
  if settings.compiler.path.text == "" then
    .error (.invalidArgument "compiler.path must not be empty")
  else if settings.compiler.connectTimeout == 0 then
    .error (.invalidArgument "compiler.connect_timeout_secs must be greater than zero")
  else .ok settings

/-- Reads a setting that may be nothing. -/
def optional {α : Type} (convert : (key : String) → Value → Except Fault α) (key : String) :
    Value → Except Fault (Option α)
  | .scalar .unit _ => .ok none
  | v => (convert key v).map some

/-- Reads the settings of the compiler. -/
def readCompiler (v : Value) : Except Fault CompilerSettings := do
  -- All that is there is converted before anything is missed.
  let s ← Section.ofValue "compiler" "CompilerSettings" 3 v
  let path ← s.read? "path" 0 Value.toText
  let args ← s.read? "args" 1 Value.toTexts
  let connectTimeout ← s.read? "connect_timeout_secs" 2 Value.toNat
  let path ← s.required "path" 0 path
  let connectTimeout ← s.required "connect_timeout_secs" 2 connectTimeout
  return ⟨⟨path⟩, args.getD [], connectTimeout⟩

/-- Reads the settings of the generation. -/
def readGenerate (v : Value) : Except Fault GenerateSettings := do
  -- Each of them has a default.
  let s ← Section.ofValue "generate" "GenerateSettings" 3 v
  let source ← s.read? "component_id_from" 0 fun _ => Value.toSource
  let schemaPath ← s.read? "schema_path" 1 (optional Value.toText)
  let continueOnError ← s.read? "continue_on_error" 2 Value.toBool
  return ⟨source.getD .resource, (schemaPath.getD none).map Path.mk, continueOnError.getD false⟩

/-- Reads all settings. -/
def ofValue (v : Value) : Except Fault Settings := do
  -- Both sections must be there.
  let compiler ← (v.get? "compiler").mapM readCompiler
  let generate ← (v.get? "generate").mapM readGenerate
  match compiler, generate with
  | some compiler, some generate => return ⟨compiler, generate⟩
  | none, _ => throw (.missingField "compiler")
  | _, none => throw (.missingField "generate")

end Settings

end TemplateFacts
