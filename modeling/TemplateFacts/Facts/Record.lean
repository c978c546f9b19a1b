import TemplateFacts.Json.Writer

/-! The facts about one source, and how they are written. -/

namespace TemplateFacts

/-- The level at which a template is deployed. -/
inductive Scope where
  | subscription
  | resourceGroup
  | managementGroup
  | tenant
deriving DecidableEq, Repr

/-- The type of a parameter or an output. -/
inductive ValueType where
  | string
  | int
  | bool
  | array
  | object
deriving DecidableEq, Repr

/-- How the default of a parameter is given. -/
inductive DefaultKind where
  | none
  | literal
  | expression
deriving DecidableEq, Repr

/-- The purpose of a deployment. -/
inductive Category where
  | networking
  | compute
  | data
  | security
  | messaging
  | integration
  | ai
  | unknown
deriving DecidableEq, Repr

/-- Where the id of a component comes from. -/
inductive ComponentIdSource where
  /-- The first resource type, or the file name when there is none. -/
  | resource
  /-- The file name. -/
  | file
deriving DecidableEq, Repr

/-- When a module is deployed, with the value that decides. -/
inductive ModuleCondition where
  | always
  | conditional (value : Json)
  | forEach (value : Json)
deriving DecidableEq

/-- The limits that a declaration sets for its values, as declared. -/
structure Constraints where
  allowed : Option (List Json)
  minValue : Option Json
  maxValue : Option Json
  minLength : Option Json
  maxLength : Option Json
  pattern : Option Json
deriving DecidableEq

/-- A parameter of a template. -/
structure Parameter where
  name : String
  valueType : ValueType
  required : Bool
  defaultKind : DefaultKind
  defaultValue : Option Json
  defaultExpression : Option String
  constraints : Option Constraints
  description : Option String
  sensitive : Option Bool
deriving DecidableEq

/-- An output of a template. -/
structure Output where
  name : String
  valueType : ValueType
  description : Option String
deriving DecidableEq, Repr

/-- A module that a template deploys. -/
structure Module where
  name : String
  path : String
  scope : Option Scope
  condition : ModuleCondition
deriving DecidableEq

/-- What a deployment does, and the resource types that tell. -/
structure Capabilities where
  category : Category
  features : Option (List String)
deriving DecidableEq, Repr

/-- The source that the facts are about. -/
structure SourceInfo where
  path : String
  hash : String
  compilerVersion : String
deriving DecidableEq, Repr

/-- The scopes at which a component may be deployed. -/
structure Scopes where
  allowed : List Scope
  default : Scope
deriving DecidableEq, Repr

/-- How the facts came about. -/
structure Provenance where
  generatedAt : String
  generator : String
  notes : Option (List String)
deriving DecidableEq, Repr

/-- The facts about one source. -/
structure Facts where
  componentId : String
  source : SourceInfo
  scopes : Scopes
  parameters : List Parameter
  outputs : List Output
  modules : Option (List Module)
  capabilities : Capabilities
  provenance : Provenance
deriving DecidableEq

/-- The version of the written form. -/
def schemaVersion : String := "facts.v1"

/-- The scope as it is written. -/
def Scope.text : Scope → String
  | .subscription => "subscription"
  | .resourceGroup => "resourceGroup"
  | .managementGroup => "managementGroup"
  | .tenant => "tenant"

/-- The type as it is written. -/
def ValueType.text : ValueType → String
  | .string => "string"
  | .int => "int"
  | .bool => "bool"
  | .array => "array"
  | .object => "object"

/-- The kind of default as it is written. -/
def DefaultKind.text : DefaultKind → String
  | .none => "none"
  | .literal => "literal"
  | .expression => "expression"

/-- The category as it is written. -/
def Category.text : Category → String
  | .networking => "networking"
  | .compute => "compute"
  | .data => "data"
  | .security => "security"
  | .messaging => "messaging"
  | .integration => "integration"
  | .ai => "ai"
  | .unknown => "unknown"

/-- The source of component ids as it is written. -/
def ComponentIdSource.text : ComponentIdSource → String
  | .resource => "resource"
  | .file => "file"

/-- The source of component ids that a text names. -/
def ComponentIdSource.ofText? (s : String) : Option ComponentIdSource :=
  -- Names are compared letter by letter.
  if s == "resource" then some .resource else if s == "file" then some .file else none

/-- The kind of a condition as it is written. -/
def ModuleCondition.text : ModuleCondition → String
  | .always => "always"
  | .conditional _ => "conditional"
  | .forEach _ => "foreach"

/-- A member that is left out when there is no value for it. -/
def optionalMember (name : String) (value : Option Json) : List (String × Json) :=
  -- A null is a value.
  match value with
  | some value => [(name, value)]
  | none => []

/-- The constraints as a document. -/
def Constraints.toJson (c : Constraints) : Json :=
  .object (optionalMember "allowed" (c.allowed.map .list)
    ++ optionalMember "minValue" c.minValue
    ++ optionalMember "maxValue" c.maxValue
    ++ optionalMember "minLength" c.minLength
    ++ optionalMember "maxLength" c.maxLength
    ++ optionalMember "pattern" c.pattern)

/-- The parameter as a document. -/
def Parameter.toJson (p : Parameter) : Json :=
  .object ([
    ("name", .text p.name),
    ("type", .text p.valueType.text),
    ("required", .bool p.required),
    ("defaultKind", .text p.defaultKind.text)]
    ++ optionalMember "default" p.defaultValue
    ++ optionalMember "defaultExpression" (p.defaultExpression.map .text)
    ++ optionalMember "constraints" (p.constraints.map Constraints.toJson)
    ++ optionalMember "description" (p.description.map .text)
    ++ optionalMember "sensitive" (p.sensitive.map .bool))

/-- The output as a document. -/
def Output.toJson (o : Output) : Json :=
  .object ([("name", .text o.name), ("type", .text o.valueType.text)]
    ++ optionalMember "description" (o.description.map .text))

/-- The condition as a document, which tells only its kind. -/
def ModuleCondition.toJson (c : ModuleCondition) : Json := .object [("kind", .text c.text)]

/-- The module as a document. -/
def Module.toJson (m : Module) : Json :=
  .object ([("name", .text m.name), ("path", .text m.path)]
    ++ optionalMember "scope" (m.scope.map fun s => .text s.text)
    ++ [("condition", m.condition.toJson)])

/-- The capabilities as a document. -/
def Capabilities.toJson (c : Capabilities) : Json :=
  .object ([("category", .text c.category.text)]
    ++ optionalMember "features" (c.features.map fun fs => .list (fs.map .text)))

/-- The source as a document. -/
def SourceInfo.toJson (s : SourceInfo) : Json :=
  .object [
    ("path", .text s.path),
    ("hash", .text s.hash),
    ("compilerVersion", .text s.compilerVersion)]

/-- The scopes as a document. -/
def Scopes.toJson (s : Scopes) : Json :=
  .object [
    ("allowed", .list (s.allowed.map fun scope => .text scope.text)),
    ("default", .text s.default.text)]

/-- The provenance as a document. -/
def Provenance.toJson (p : Provenance) : Json :=
  .object ([("generatedAt", .text p.generatedAt), ("generator", .text p.generator)]
    ++ optionalMember "notes" (p.notes.map fun ns => .list (ns.map .text)))

/-- The facts as a document. -/
def Facts.toJson (f : Facts) : Json :=
  .object ([
    ("schemaVersion", .text schemaVersion),
    ("componentId", .text f.componentId),
    ("source", f.source.toJson),
    ("scopes", f.scopes.toJson),
    ("parameters", .list (f.parameters.map Parameter.toJson)),
    ("outputs", .list (f.outputs.map Output.toJson))]
    ++ optionalMember "modules" (f.modules.map fun ms => .list (ms.map Module.toJson))
    ++ [("capabilities", f.capabilities.toJson), ("meta", f.provenance.toJson)])

end TemplateFacts
