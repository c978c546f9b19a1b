import TemplateFacts.Error
import TemplateFacts.Facts.Record
import TemplateFacts.Json.Shape
import TemplateFacts.Text.Case

/-! Compiled templates: their sections, their resources, and what their loosely typed values mean. -/

namespace TemplateFacts

/-- The parts of a compiled template that facts are drawn from. -/
structure Template where
  schema : Option Json
  parameters : List (String × Json)
  outputs : List (String × Json)
  resources : Json
deriving DecidableEq

namespace Template

/-- The shape of a template. -/
def shape : Json.Shape :=
  .record "Template" [
    ("$schema", .replaced .null, .any),
    ("parameters", .replaced .null, .optional .table),
    ("outputs", .replaced .null, .optional .table),
    ("resources", .replaced .null, .any)]

/-- The members of a section that may be absent or null. -/
def sectionOf (name : String) (j : Json) : List (String × Json) :=
  -- An absent section declares nothing.
  ((j.get? name).bind Json.asObject?).getD []

/-- The template that a document of its shape says. -/
def ofRecord (j : Json) : Template :=
  -- A null schema counts as absent.
  { schema := match j.get? "$schema" with
      | some .null => none
      | schema => schema
    parameters := sectionOf "parameters" j
    outputs := sectionOf "outputs" j
    resources := (j.get? "resources").getD .null }

/-- Reads the template of a file from its text. -/
def parse (file : Path) (contents : String) : Except Error Template :=
  -- The failure names the file.
  match shape.ofBytes (Utf8.encode contents) with
  | .ok j => .ok (ofRecord j)
  | .error fault => .error (.invalidTemplate file fault.message)

/-- The address of the template's own schema, when it is a text. -/
def schemaUrl? (template : Template) : Option String := template.schema.bind Json.asText?

end Template

mutual
/-- The resources below a document: the items of a list, each followed by those inside it. -/
def resourcesIn : Json → List Json
  -- Only lists hold resources.
  | .list items => resourcesAmong items
  | _ => []
termination_by structural j => j

/-- The resources of a list, each followed by those inside it. -/
def resourcesAmong : List Json → List Json
  -- A resource stands before its children.
  | [] => []
  | item :: items => item :: (resourcesInside item ++ resourcesAmong items)
termination_by structural items => items

/-- The resources inside a resource. -/
def resourcesInside : Json → List Json
  -- They stand in a member of the same name as the section.
  | .object members => resourcesOfMembers members
  | _ => []
termination_by structural j => j

/-- The resources in the first of the members that is named for them. -/
def resourcesOfMembers : List (String × Json) → List Json
  -- Other members are passed over.
  | [] => []
  | member :: members =>
    match resourcesOfMember member with
    | some found => found
    | none => resourcesOfMembers members
termination_by structural members => members

/-- The resources in a member, if it is named for them. -/
def resourcesOfMember : String × Json → Option (List Json)
  -- The name decides.
  | (name, j) => if name == "resources" then some (resourcesIn j) else none
termination_by structural member => member
end

/-- Every resource of the template in document order, a resource before those inside it. -/
def Template.allResources (template : Template) : List Json := resourcesIn template.resources

/-- The type of resources that deploy another template. -/
def deploymentType : String := "microsoft.resources/deployments"

/-- The resource deploys another template. -/
def isDeployment (resource : Json) : Bool :=
  -- The case of ASCII letters does not count.
  match (resource.get? "type").bind Json.asText? with
  | some type => Text.asciiLower type == deploymentType
  | none => false

/-- The value is a text in brackets, blanks around them not counting. -/
def isExpression (value : Json) : Bool :=
  -- One bracket at either end is enough.
  match value with
  | .text s =>
    let trimmed := (Text.trim s).toList
    trimmed.head? == some '[' && trimmed.getLast? == some ']'
  | _ => false

/-- The value counts as set: null, false, zero and the empty text do not. -/
def isTruthy : Option Json → Bool
  -- Lists and objects count even when they are empty.
  | none => false
  | some .null => false
  | some (.bool b) => b
  | some (.int n) => n != 0
  | some (.float x) => !x.isZero
  | some (.text s) => s != ""
  | some (.list _) => true
  | some (.object _) => true

/-- The type that a declaration names, anything unknown being an object. -/
def declaredType (declared : Option Json) : ValueType :=
  -- A secure type is its plain counterpart.
  match declared.bind Json.asText? with
  | none => .object
  | some s =>
    match Text.asciiLower s with
    | "string" => .string
    | "securestring" => .string
    | "int" => .int
    | "bool" => .bool
    | "array" => .array
    | _ => .object

/-- The declared type says that values are secret. -/
def isSecureType (declared : Option Json) : Bool :=
  -- The beginning of the name decides.
  match declared.bind Json.asText? with
  | some s => Text.startsWith (Text.asciiLower s) "secure"
  | none => false

/-- The description in the metadata of a declaration, when it is a text. -/
def metadataDescription (definition : Json) : Option String :=
  -- Both members must be there.
  ((definition.get? "metadata").bind (·.get? "description")).bind Json.asText?

end TemplateFacts
