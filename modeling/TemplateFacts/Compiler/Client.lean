import TemplateFacts.Compiler.Answer
import TemplateFacts.Error

/-! Compilers as the generation of facts sees them. -/

namespace TemplateFacts.Compiler

/-- What a compiler tells about one source. -/
structure Description where
  compile : CompileResult
  metadata : Metadata
  graph : DeploymentGraph

/-- A compiler that is asked one thing after another, and changes with every question. -/
structure Client (σ : Type) where
  /-- Asks for the version of the compiler. -/
  version : σ → Except Error String × σ
  /-- Asks for all that the compiler tells about a source. -/
  describe : Path → σ → Except Error Description × σ

/-- The names of the methods that a compiler answers. -/
inductive Method where
  | version
  | compile
  | metadata
  | graph
deriving DecidableEq, Repr

/-- The short name of a method. -/
def Method.text : Method → String
  -- The first letter is a small one.
  | .version => "version"
  | .compile => "compile"
  | .metadata => "getMetadata"
  | .graph => "getDeploymentGraph"

/-- The name of a method on the wire. -/
def Method.wireText (m : Method) : String := "bicep/" ++ m.text

end TemplateFacts.Compiler
