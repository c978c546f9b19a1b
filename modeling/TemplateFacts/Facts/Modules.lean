import TemplateFacts.Compiler.Answer
import TemplateFacts.Facts.Template

/-!
The modules that a template deploys, and the scopes at which templates and modules are deployed.

The graph tells the names and paths of modules. The resource of the same name that deploys a template
tells the link to use without a path, the condition and the scope.
-/

namespace TemplateFacts

/-- The scope told by the address of a template's schema, a resource group if it tells none. -/
def scopeOfSchema (url : Option String) : Scope :=
  -- The first scope whose name occurs in the address wins.
  match url with
  | none => .resourceGroup
  | some url =>
    let url := Text.asciiLower url
    if Text.contains url "subscriptiondeploymenttemplate" then .subscription
    else if Text.contains url "managementgroupdeploymenttemplate" then .managementGroup
    else if Text.contains url "tenantdeploymenttemplate" then .tenant
    else .resourceGroup

/-- The scope that an expression names. -/
def scopeOfExpression (expression : String) : Option Scope :=
  -- The first call that occurs in the expression wins, in the order of this list.
  let expression := Text.asciiLower expression
  if Text.contains expression "subscription()" then some .subscription
  else if Text.contains expression "resourcegroup()" then some .resourceGroup
  else if Text.contains expression "managementgroup()" then some .managementGroup
  else if Text.contains expression "tenant()" then some .tenant
  else none

/-- The scope of the resource that deploys a module. -/
def moduleScope (resource : Option Json) : Option Scope :=
  -- An expression comes before a subscription, and that before a resource group.
  match resource with
  | none => none
  | some resource =>
    match ((resource.get? "scope").bind Json.asText?).bind scopeOfExpression with
    | some scope => some scope
    | none =>
      if isTruthy (resource.get? "subscriptionId") then some .subscription
      else if isTruthy (resource.get? "resourceGroup") then some .resourceGroup
      else none

/-- The modules with a usable path, and the names of the others. -/
structure ModuleResolution where
  modules : List Module
  omitted : List String
deriving DecidableEq

/-- When the resource of a module is deployed: repetition comes before a condition. -/
def moduleCondition (resource : Option Json) : ModuleCondition :=
  -- Members that do not count as set are passed over.
  match resource.bind (·.get? "copy"), resource.bind (·.get? "condition") with
  | some copy, condition =>
    if isTruthy (some copy) then .forEach copy
    else match condition with
      | some condition => if isTruthy (some condition) then .conditional condition else .always
      | none => .always
  | none, some condition => if isTruthy (some condition) then .conditional condition else .always
  | none, none => .always

/-- The address of the template that a resource deploys, when it is a text. -/
def templateLink? (resource : Json) : Option String :=
  -- Every member on the way must be there.
  (((resource.get? "properties").bind (·.get? "templateLink")).bind (·.get? "uri")).bind
    Json.asText?

/-- The last resource of a name that deploys a template. -/
def deploymentNamed (resources : List Json) (name : String) : Option Json :=
  -- Resources whose name is no text have none.
  (resources.filter isDeployment).reverse.find? fun resource =>
    (resource.get? "name").bind Json.asText? == some name

/-- The path of a module: that of its node, or else the link of its resource. -/
def modulePath (resource : Option Json) (node : GraphNode) : Option String :=
  -- An empty path is none, and does not fall back on the link.
  (match node.relativePath with
    | some path => some path
    | none => resource.bind templateLink?).filter (· != "")

/-- The nodes of modules, the first of each name. -/
def firstModules (seen : List String) : List GraphNode → List GraphNode
  -- Later nodes of a name that was seen are passed over.
  | [] => []
  | node :: nodes =>
    if !node.isModule || seen.contains node.name then firstModules seen nodes
    else node :: firstModules (node.name :: seen) nodes

/-- The module of a node, if it has a path. -/
def moduleOf (resources : List Json) (node : GraphNode) : Option Module :=
  -- The resource is found by the name of the node.
  let resource := deploymentNamed resources node.name
  (modulePath resource node).map fun path =>
    { name := node.name
      path
      scope := moduleScope resource
      condition := moduleCondition resource }

/-- The modules in order of their names, and the names without a path in the order of the graph. -/
def resolveModules (template : Template) (graph : DeploymentGraph) : ModuleResolution :=
  -- Each name is settled once.
  let resources := template.allResources
  let nodes := firstModules [] graph.nodes
  { modules := (nodes.filterMap (moduleOf resources)).mergeSort fun a b => decide (a.name ≤ b.name)
    omitted := (nodes.filter fun node => (moduleOf resources node).isNone).map (·.name) }

/-- The remark on modules without a path, if there are any. -/
def ModuleResolution.omissionNote (resolution : ModuleResolution) : Option String :=
  -- Their number is told, and their names are not.
  if resolution.omitted.isEmpty then none
  else some s!"Omitted {resolution.omitted.length} module(s) without resolvable path."

end TemplateFacts
