import TemplateFacts.Compiler.Client
import TemplateFacts.Wire.Connection

/-! Questions to the compiler, as they are asked over a connection. -/

namespace TemplateFacts.Compiler

/-- A question to the compiler. -/
inductive Question where
  | version
  | compile (file : Path)
  | metadata (file : Path)
  | graph (file : Path)
deriving DecidableEq, Repr

namespace Question

/-- The method that a question calls. -/
def method : Question → Method
  | .version => .version
  | .compile _ => .compile
  | .metadata _ => .metadata
  | .graph _ => .graph

/-- The parameters that name a source. -/
def paramsOf (file : Path) : Json := .object [("path", .text file.text)]

/-- The parameters of a question. -/
def params : Question → Json
  -- The version concerns no source.
  | .version => .object []
  | .compile file => paramsOf file
  | .metadata file => paramsOf file
  | .graph file => paramsOf file

/-- The shape of the answer to a question. -/
def shape : Question → Json.Shape
  | .version => versionShape
  | .compile _ => CompileResult.shape
  | .metadata _ => Metadata.shape
  | .graph _ => DeploymentGraph.shape

/-- The request that asks a question. -/
def request (question : Question) : Wire.Request :=
  ⟨question.method.wireText, question.params, question.shape⟩

/-- The three questions about a source. -/
def about (file : Path) : List Question := [.compile file, .metadata file, .graph file]

end Question

/-- The description that the answers to the three questions give. -/
def Description.ofRecords (compile metadata graph : Json) : Description :=
  ⟨.ofRecord compile, .ofRecord metadata, .ofRecord graph⟩

end TemplateFacts.Compiler
