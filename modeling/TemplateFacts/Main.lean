import TemplateFacts.Application
import TemplateFacts.Host.Description

/-! The command line, in surroundings that a document on standard input describes. -/

namespace TemplateFacts.Main

/-- The exit code when the surroundings cannot be read. -/
def noSurroundings : UInt32 := 3

/-- Reads a stream to its end. -/
partial def readAll (input : IO.FS.Stream) (text : String) : IO String := do
  let line ← input.getLine
  if line.isEmpty then return text else readAll input (text ++ line)

/-- Runs the program, and prints what it prints. -/
def runIn (host : Host) (arguments : List String) : IO UInt32 := do
  let exit := Application.run host arguments
  (← IO.getStdout).putStr exit.stdout
  (← IO.getStderr).putStr exit.stderr
  return exit.code.toUInt32

end TemplateFacts.Main

/-- Runs the program in the surroundings that standard input describes. -/
def main (arguments : List String) : IO UInt32 := do
  match TemplateFacts.Json.ofText (← TemplateFacts.Main.readAll (← IO.getStdin) "") with
  | .ok j => TemplateFacts.Main.runIn (TemplateFacts.Host.ofJson j) arguments
  | .error fault =>
    (← IO.getStderr).putStrLn fault.message
    return TemplateFacts.Main.noSurroundings
