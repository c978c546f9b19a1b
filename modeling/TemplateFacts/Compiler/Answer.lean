import TemplateFacts.Json.Shape

/-! The answers of the compiler: the compiled template, the metadata and the deployment graph. -/

namespace TemplateFacts

open Json (Shape Absence)

/-- A message of the compiler about a source. -/
structure Diagnostic where
  code : String
  message : String
deriving DecidableEq, Repr

/-- The outcome of a compilation. -/
structure CompileResult where
  success : Bool
  contents : Option String
  diagnostics : List Diagnostic
deriving DecidableEq, Repr

/-- The name of a declaration and what the compiler says about it. -/
structure SymbolMetadata where
  name : String
  description : Option String
deriving DecidableEq, Repr

/-- What the compiler says about the declarations of a source. -/
structure Metadata where
  parameters : List SymbolMetadata
  outputs : List SymbolMetadata
deriving DecidableEq, Repr

/-- A resource or a module of a deployment. -/
structure GraphNode where
  name : String
  nodeType : String
  relativePath : Option String
deriving DecidableEq, Repr

/-- The resources and modules of a deployment. -/
structure DeploymentGraph where
  nodes : List GraphNode
deriving DecidableEq, Repr

/-- The type of the nodes that stand for modules. -/
def moduleNodeType : String := "<module>"

/-- The node stands for a module. -/
def GraphNode.isModule (node : GraphNode) : Bool := node.nodeType == moduleNodeType

namespace Json

/-- The text of a member, or the empty text. -/
def textOf (name : String) (j : Json) : String := ((j.get? name).bind asText?).getD ""

/-- The text of a member that may be absent or null. -/
def textOf? (name : String) (j : Json) : Option String := (j.get? name).bind asText?

/-- The items of a member, or none. -/
def listOf (name : String) (j : Json) : List Json := ((j.get? name).bind asList?).getD []

/-- A text, or null in its absence. -/
def ofText? (s : Option String) : Json := (s.map Json.text).getD .null

end Json

/-- The shape of a diagnostic. -/
def Diagnostic.shape : Shape :=
  .record "CompileDiagnostic" [
    ("code", .replaced (.text ""), .text),
    ("message", .replaced (.text ""), .text)]

/-- The shape of the outcome of a compilation. -/
def CompileResult.shape : Shape :=
  .record "CompileResult" [
    ("success", .replaced (.bool false), .flag),
    ("contents", .replaced .null, .optional .text),
    ("diagnostics", .replaced (.list []), .list Diagnostic.shape)]

/-- The shape of what is said about a declaration. -/
def SymbolMetadata.shape : Shape :=
  .record "SymbolMetadata" [
    ("name", .refused, .text),
    ("description", .replaced .null, .optional .text)]

/-- The shape of what is said about the declarations of a source. -/
def Metadata.shape : Shape :=
  .record "Metadata" [
    ("parameters", .replaced (.list []), .list SymbolMetadata.shape),
    ("outputs", .replaced (.list []), .list SymbolMetadata.shape)]

/-- The shape of a node. -/
def GraphNode.shape : Shape :=
  .record "GraphNode" [
    ("name", .refused, .text),
    ("type", .replaced (.text ""), .text),
    ("relativePath", .replaced .null, .optional .text)]

/-- The shape of a deployment graph. -/
def DeploymentGraph.shape : Shape :=
  .record "DeploymentGraph" [("nodes", .replaced (.list []), .list GraphNode.shape)]

/-- The shape of the answer that tells the version. -/
def versionShape : Shape := .record "VersionResponse" [("version", .refused, .text)]

/-- The diagnostic that a document of its shape says. -/
def Diagnostic.ofRecord (j : Json) : Diagnostic :=
  { code := j.textOf "code", message := j.textOf "message" }

/-- The outcome that a document of its shape says. -/
def CompileResult.ofRecord (j : Json) : CompileResult :=
  { success := ((j.get? "success").bind Json.asBool?).getD false
    contents := j.textOf? "contents"
    diagnostics := (j.listOf "diagnostics").map Diagnostic.ofRecord }

/-- What a document of its shape says about a declaration. -/
def SymbolMetadata.ofRecord (j : Json) : SymbolMetadata :=
  { name := j.textOf "name", description := j.textOf? "description" }

/-- What a document of its shape says about the declarations of a source. -/
def Metadata.ofRecord (j : Json) : Metadata :=
  { parameters := (j.listOf "parameters").map SymbolMetadata.ofRecord
    outputs := (j.listOf "outputs").map SymbolMetadata.ofRecord }

/-- The node that a document of its shape says. -/
def GraphNode.ofRecord (j : Json) : GraphNode :=
  { name := j.textOf "name", nodeType := j.textOf "type", relativePath := j.textOf? "relativePath" }

/-- The graph that a document of its shape says. -/
def DeploymentGraph.ofRecord (j : Json) : DeploymentGraph :=
  { nodes := (j.listOf "nodes").map GraphNode.ofRecord }

/-- Reads the outcome of a compilation. -/
def CompileResult.ofJson : Json → Except Json.Fault CompileResult :=
  CompileResult.shape.decode CompileResult.ofRecord

/-- Reads what is said about the declarations of a source. -/
def Metadata.ofJson : Json → Except Json.Fault Metadata :=
  Metadata.shape.decode Metadata.ofRecord

/-- Reads a deployment graph. -/
def DeploymentGraph.ofJson : Json → Except Json.Fault DeploymentGraph :=
  DeploymentGraph.shape.decode DeploymentGraph.ofRecord

/-- Reads the answer that tells the version. -/
def versionOfJson : Json → Except Json.Fault String :=
  versionShape.decode (Json.textOf "version")

/-- The diagnostic as a document. -/
def Diagnostic.toJson (d : Diagnostic) : Json :=
  .object [("code", .text d.code), ("message", .text d.message)]

/-- The outcome of a compilation as a document. -/
def CompileResult.toJson (result : CompileResult) : Json :=
  .object [
    ("success", .bool result.success),
    ("contents", .ofText? result.contents),
    ("diagnostics", .list (result.diagnostics.map Diagnostic.toJson))]

/-- What is said about a declaration as a document. -/
def SymbolMetadata.toJson (symbol : SymbolMetadata) : Json :=
  .object [("name", .text symbol.name), ("description", .ofText? symbol.description)]

/-- What is said about the declarations of a source as a document. -/
def Metadata.toJson (metadata : Metadata) : Json :=
  .object [
    ("parameters", .list (metadata.parameters.map SymbolMetadata.toJson)),
    ("outputs", .list (metadata.outputs.map SymbolMetadata.toJson))]

/-- The node as a document. -/
def GraphNode.toJson (node : GraphNode) : Json :=
  .object [
    ("name", .text node.name),
    ("type", .text node.nodeType),
    ("relativePath", .ofText? node.relativePath)]

/-- The graph as a document. -/
def DeploymentGraph.toJson (graph : DeploymentGraph) : Json :=
  .object [("nodes", .list (graph.nodes.map GraphNode.toJson))]

end TemplateFacts
