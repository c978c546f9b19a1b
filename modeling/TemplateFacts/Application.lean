import TemplateFacts.CommandLine.Basic
import TemplateFacts.Contract.Bundled
import TemplateFacts.Contract.Document
import TemplateFacts.Host.Basic
import TemplateFacts.Scan
import TemplateFacts.Session.Live

/-! The program as a whole: what a command line does to its surroundings. -/

namespace TemplateFacts.Application

open Session (Live)

/-- A failure of the program, and what it was doing. -/
structure Failure where
  doing : Option String
  error : Error
deriving DecidableEq

/-- The failure in words, with what lies behind it. -/
def Failure.text (failure : Failure) : String :=
  -- What lies behind comes last.
  Text.join ": " (failure.doing.toList ++ failure.error.chain)

/-- The result of a command, what it printed, and what it left. -/
structure Report (α : Type) where
  result : Except Failure α
  printed : String
  tree : FileTree
  /-- The session with the compiler, if there was one. -/
  session : Option Live

/-- The number of facts files that were written, and of sources that failed. -/
structure Summary where
  written : Nat
  failed : Nat
deriving DecidableEq, Repr

/-- Says what was being done when a part of a command failed. -/
def while_ {α : Type} (doing : String) (result : Except Error α) : Except Failure α :=
  result.mapError fun error => ⟨some doing, error⟩

/-- Passes a failure on as it is. -/
def plain {α : Type} (result : Except Error α) : Except Failure α :=
  result.mapError fun error => ⟨none, error⟩

/-- Loads the contract that the settings name. -/
def contractOf (host : Host) (settings : Settings) : Except Failure Schema :=
  -- The bundled contract is used when none is named.
  match settings.generate.schemaPath with
  | some path => while_ s!"Failed to load schema {path.text}" (Schema.load host.cwd path host.tree)
  | none => .ok Contract.bundled

/-- What a run over some sources needs. -/
structure Plan where
  options : Generation.Options
  files : List Path

/-- Finds the sources of a run. -/
def plan (host : Host) (settings : Settings) (target : CommandLine.Target) :
    Except Failure Plan := do
  -- The compiler must be there before anything is looked for.
  let _ ← plain (Compiler.banner host.programs settings.command host.tree)
  let root := Path.absolutize host.cwd target.input
  let outDir := target.output.map (Path.absolutize host.cwd)
  let files ← while_ s!"Failed to scan {root.text}"
    (Scan.sources host.tree host.cwd root outDir.toList)
  return {
    options := {
      root, outDir
      componentIdFrom := settings.generate.componentIdFrom
      generatedAt := target.generatedAt
      continueOnError := settings.generate.continueOnError }
    files }

/-- What is printed when there are no sources. -/
def nothingFound : String := "No .bicep files found.\n"

/-- A session with the compiler that the settings name. -/
def session (host : Host) (settings : Settings) : Live :=
  .start settings.patience host.programs settings.command host.tree

/-- Generates the facts about all sources below a directory. -/
def generate (host : Host) (settings : Settings) (target : CommandLine.Target) :
    Report Summary :=
  -- A session is started only when there are sources and a contract, and is always stopped.
  match plan host settings target with
  | .error failure => ⟨.error failure, "", host.tree, none⟩
  | .ok plan =>
    if plan.files.isEmpty then ⟨.ok ⟨0, 0⟩, nothingFound, host.tree, none⟩
    else match contractOf host settings with
      | .error failure => ⟨.error failure, "", host.tree, none⟩
      | .ok contract =>
        let (outcome, progress) := Generation.generateAll Live.client host.disk plan.options
          contract plan.files (session host settings) host.tree
        let summary : Summary := ⟨progress.written.length, progress.failed.length⟩
        ⟨plain (outcome.map fun _ => summary), progress.printed, progress.tree,
          some progress.compiler.stop⟩

/-- Asks the compiler for its version, and prints it. -/
def compilerVersion (host : Host) (settings : Settings) : Report String :=
  -- The session is stopped whatever the answer.
  let (version, live) := (session host settings).version
  let printed := match version with
    | .ok version => version ++ "\n"
    | .error _ => ""
  ⟨while_ "Failed to query compiler version" version, printed, host.tree, some live.stop⟩

/-- How the program ends. -/
structure Exit where
  code : Nat
  stdout : String
  stderr : String
  tree : FileTree

/-- The exit code of a failure. -/
def failureCode : Nat := 1

/-- The exit code of a command line that cannot be read. -/
def usageCode : Nat := 2

/-- How the program ends after a command. -/
def Report.exit {α : Type} (report : Report α) : Exit :=
  -- Failures are told on a line of their own.
  match report.result with
  | .ok _ => ⟨0, report.printed, "", report.tree⟩
  | .error failure => ⟨failureCode, report.printed, failure.text ++ "\n", report.tree⟩

/-- Runs the program on the arguments behind its name. -/
def run (host : Host) (arguments : List String) : Exit :=
  -- Settings are loaded only for a command line that can be read.
  match CommandLine.read arguments with
  | .error fault =>
    if fault.isRequest then ⟨0, fault.message ++ "\n", "", host.tree⟩
    else ⟨usageCode, "", fault.message ++ "\n", host.tree⟩
  | .ok invocation =>
    match while_ "Failed to load configuration"
        (host.settings invocation.config invocation.overrides) with
    | .error failure => (⟨.error failure, "", host.tree, none⟩ : Report Unit).exit
    | .ok settings =>
      match invocation.task with
      | .generate target => (generate host settings target).exit
      | .compilerVersion => (compilerVersion host settings).exit

end TemplateFacts.Application
