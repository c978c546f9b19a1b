import TemplateFacts.Compiler.Answer
import TemplateFacts.Facts.Record
import TemplateFacts.Text.Case
import TemplateFacts.Text.Lines

/-! What a deployment does, told by the types of its resources. -/

namespace TemplateFacts

/-- The categories of the known resource providers. -/
def providerCategories : List (String × Category) := [
  ("microsoft.network", .networking),
  ("microsoft.compute", .compute),
  ("microsoft.containerservice", .compute),
  ("microsoft.containerregistry", .compute),
  ("microsoft.web", .compute),
  ("microsoft.storage", .data),
  ("microsoft.sql", .data),
  ("microsoft.documentdb", .data),
  ("microsoft.dbformysql", .data),
  ("microsoft.dbforpostgresql", .data),
  ("microsoft.keyvault", .security),
  ("microsoft.authorization", .security),
  ("microsoft.eventhub", .messaging),
  ("microsoft.servicebus", .messaging),
  ("microsoft.apimanagement", .integration),
  ("microsoft.cognitiveservices", .ai),
  ("microsoft.machinelearningservices", .ai)]

/-- Sets a text in a sorted list without repetition. -/
def putText (s : String) : List String → List String
  -- A text that is there already is not repeated.
  | [] => [s]
  | other :: rest =>
    if s < other then s :: other :: rest
    else if s = other then other :: rest
    else other :: putText s rest

/-- The types of the resources in a graph, sorted and without repetition. -/
def resourceTypes (graph : DeploymentGraph) : List String :=
  -- Modules and nodes without a type are passed over.
  ((graph.nodes.filter fun node => node.nodeType != "" && !node.isModule).map
    (·.nodeType)).foldr putText []

/-- The category of a resource type, told by what stands before its first slash. -/
def categoryOf (resourceType : String) : Category :=
  -- The case of ASCII letters does not count.
  let provider := Text.asciiLower ((Text.split '/' resourceType).headD "")
  (providerCategories.lookup provider).getD .unknown

/-- Counts one more type of a category in a table. -/
def countType (category : Category) : List (Category × Nat) → List (Category × Nat)
  -- A category that is new to the table comes last.
  | [] => [(category, 1)]
  | (other, count) :: rest =>
    if other = category then (other, count + 1) :: rest
    else (other, count) :: countType category rest

/-- The table of the categories that occur among types, each with the number of its types. -/
def tally (types : List String) : List (Category × Nat) :=
  types.foldl (fun table type => countType (categoryOf type) table) []

/-- An entry of a table goes before another one: it counts more, or as much under an earlier name. -/
def prevails (entry other : Category × Nat) : Bool :=
  other.2 < entry.2 || (other.2 == entry.2 && entry.1.text < other.1.text)

/-- The category of the entry of a table that goes before all others. -/
def majorityCategory : List (Category × Nat) → Category
  -- An entry gives way only to one that goes before it.
  | [] => .unknown
  | entry :: rest =>
    (rest.foldl (fun best candidate => if prevails candidate best then candidate else best) entry).1

/-- The capabilities that resource types tell, their table being gone through in a given order. -/
def classifyFrom (table : List (Category × Nat)) (types : List String) : Capabilities :=
  -- Without types nothing is known.
  if types.isEmpty then { category := .unknown, features := none }
  else { category := majorityCategory table, features := some types }

/-- The capabilities that resource types tell. -/
def classify (types : List String) : Capabilities := classifyFrom (tally types) types

end TemplateFacts
