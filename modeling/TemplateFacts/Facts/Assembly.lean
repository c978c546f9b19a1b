import TemplateFacts.Facts.Capabilities
import TemplateFacts.Facts.Modules
import TemplateFacts.Facts.Parameters
import TemplateFacts.SourceFile

/-! The facts about a source, put together from the answers of the compiler. -/

namespace TemplateFacts

/-- What the facts of one run have in common. -/
structure FactsContext where
  root : Path
  compilerVersion : String
  generator : String
  componentIdFrom : ComponentIdSource
deriving Repr

/-- What is gathered about one source. -/
structure FactsInputs where
  file : Path
  compile : CompileResult
  metadata : Metadata
  graph : DeploymentGraph
  hash : String
  generatedAt : String

/-- The name under which this program signs. -/
def generatorName : String := "bicep-facts@0.1.0"

/-- The compilation succeeded and gave a template, or else the failure. -/
def ensureCompiled (file : Path) (result : CompileResult) : Except Error String :=
  -- An empty template is none.
  match result.success, result.contents with
  | true, some contents =>
    if contents == "" then .error (.compilationFailed file (result.diagnostics.map fun d => (d.code, d.message)))
    else .ok contents
  | _, _ => .error (.compilationFailed file (result.diagnostics.map fun d => (d.code, d.message)))

/-- The id of a component: the end of its first resource type, or the stem of its file. -/
def componentId (source : ComponentIdSource) (file : Path) (types : List String) : String :=
  -- A type that ends with a slash is taken whole.
  match source, types with
  | .resource, first :: _ =>
    let last := (Text.split '/' first).getLastD ""
    Text.lower (if last == "" then first else last)
  | _, _ => SourceFile.stem file

/-- Puts together the facts about a source. -/
def buildFacts (inputs : FactsInputs) (context : FactsContext) : Except Error Facts := do
  -- The template is read first, and nothing after it can fail.
  let contents ← ensureCompiled inputs.file inputs.compile
  let template ← Template.parse inputs.file contents
  let scope := scopeOfSchema template.schemaUrl?
  let types := resourceTypes inputs.graph
  let resolution := resolveModules template inputs.graph
  return {
    componentId := componentId context.componentIdFrom inputs.file types
    source := {
      path := (Path.relativeTo context.root inputs.file).posixText
      hash := inputs.hash
      compilerVersion := context.compilerVersion }
    scopes := { allowed := [scope], default := scope }
    parameters := buildParameters template inputs.metadata
    outputs := buildOutputs template inputs.metadata
    modules := if resolution.modules.isEmpty then none else some resolution.modules
    capabilities := classify types
    provenance := {
      generatedAt := inputs.generatedAt
      generator := context.generator
      notes := resolution.omissionNote.map fun note => [note] } }

end TemplateFacts
