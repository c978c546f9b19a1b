import TemplateFacts.Compiler.Client

/-! A compiler whose answers are all recorded beforehand. -/

namespace TemplateFacts.Compiler

/-- The recorded answers: the version, and for each source the answers by method. -/
structure Recorded where
  root : Path
  version : Json
  answers : List (String × Json)

/-- The questions asked so far, the first one first. -/
abbrev Asked := List String

namespace Recorded

/-- A recorded answer, which is an error if it has a member of that name. -/
def read {α : Type} (method : Method) (ofJson : Json → Except Json.Fault α) (answer : Json) :
    Except Error α :=
  -- Errors keep what the compiler printed.
  match answer.get? "error" with
  | some error =>
    .error (.remote method.wireText (((error.get? "code").bind Json.asInt?).getD 0)
      (Json.textOf "message" error) (Json.textOf "stderr" error))
  | none => (ofJson answer).mapError .serialization

/-- The name under which a source is recorded. -/
def nameOf (recorded : Recorded) (file : Path) : String :=
  -- Sources are named from the root.
  (Text.dropStart? file.text (recorded.root.text ++ "/")).getD file.text

/-- The answer about a source. -/
def answer {α : Type} (recorded : Recorded) (file : Path) (method : Method)
    (ofJson : Json → Except Json.Fault α) : Except Error α :=
  -- A method without an answer is answered by an empty record.
  let name := recorded.nameOf file
  match recorded.answers.lookup name with
  | none => .error (.remote method.wireText (-32000) s!"unknown file {name}" "")
  | some answers => read method ofJson ((answers.get? method.text).getD (.object []))

/-- Asks the three questions about a source, up to the first that fails. -/
def describe (recorded : Recorded) (file : Path) (asked : Asked) :
    Except Error Description × Asked :=
  -- Every question is noted before it is answered.
  let note (method : Method) (asked : Asked) : Asked :=
    asked ++ [s!"{method.text} {recorded.nameOf file}"]
  let asked := note .compile asked
  match recorded.answer file .compile CompileResult.ofJson with
  | .error e => (.error e, asked)
  | .ok compile =>
    let asked := note .metadata asked
    match recorded.answer file .metadata Metadata.ofJson with
    | .error e => (.error e, asked)
    | .ok metadata =>
      let asked := note .graph asked
      match recorded.answer file .graph DeploymentGraph.ofJson with
      | .error e => (.error e, asked)
      | .ok graph => (.ok ⟨compile, metadata, graph⟩, asked)

/-- The compiler that gives the recorded answers. -/
def client (recorded : Recorded) : Client Asked where
  version asked :=
    (read .version (fun j => (Json.Shape.text.ofJson j).map fun j => (j.asText?).getD "")
      recorded.version, asked ++ [Method.text .version])
  describe := recorded.describe

end Recorded

end TemplateFacts.Compiler
