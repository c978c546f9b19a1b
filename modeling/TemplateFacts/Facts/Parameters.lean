import TemplateFacts.Compiler.Answer
import TemplateFacts.Facts.Template

/-! The parameters and outputs that a template declares. -/

namespace TemplateFacts

/-- What the compiler says about a name, the last entry counting. -/
def reportedDescription (symbols : List SymbolMetadata) (name : String) : Option String :=
  -- A last entry without a description hides those before it.
  match symbols.reverse.find? (·.name == name) with
  | some symbol => symbol.description
  | none => none

/-- The description of a declaration: the compiler's before the template's own. -/
def describe (symbols : List SymbolMetadata) (name : String) (definition : Json) :
    Option String :=
  -- The template is asked only when the compiler is silent.
  match reportedDescription symbols name with
  | some description => some description
  | none => metadataDescription definition

/-- How the default of a declaration is given. -/
def defaultKindOf : Option Json → DefaultKind
  -- A null default is a default.
  | none => .none
  | some value => if isExpression value then .expression else .literal

/-- The limits that a declaration sets, if it sets any. -/
def constraintsOf (definition : Json) : Option Constraints :=
  -- Allowed values count only as a list.
  let constraints : Constraints := {
    allowed := (definition.get? "allowedValues").bind Json.asList?
    minValue := definition.get? "minValue"
    maxValue := definition.get? "maxValue"
    minLength := definition.get? "minLength"
    maxLength := definition.get? "maxLength"
    pattern := definition.get? "pattern" }
  if constraints = ⟨none, none, none, none, none, none⟩ then none else some constraints

/-- The parameter that a declaration declares. -/
def parameterOf (symbols : List SymbolMetadata) (name : String) (definition : Json) :
    Parameter :=
  -- The default is kept as a value or as an expression, never as both.
  let declared := definition.get? "type"
  let default := definition.get? "defaultValue"
  let kind := defaultKindOf default
  { name
    valueType := declaredType declared
    required := default.isNone
    defaultKind := kind
    defaultValue := if kind = .literal then default else none
    defaultExpression := if kind = .expression then default.bind Json.asText? else none
    constraints := constraintsOf definition
    description := describe symbols name definition
    sensitive := if isSecureType declared then some true else none }

/-- The output that a declaration declares. -/
def outputOf (symbols : List SymbolMetadata) (name : String) (definition : Json) : Output :=
  { name
    valueType := declaredType (definition.get? "type")
    description := describe symbols name definition }

/-- The parameters of a template in order of their names. -/
def buildParameters (template : Template) (metadata : Metadata) : List Parameter :=
  -- What only the metadata mentions is not declared.
  (template.parameters.map fun (name, definition) =>
    parameterOf metadata.parameters name definition).mergeSort fun a b => decide (a.name ≤ b.name)

/-- The outputs of a template in order of their names. -/
def buildOutputs (template : Template) (metadata : Metadata) : List Output :=
  -- What only the metadata mentions is not declared.
  (template.outputs.map fun (name, definition) =>
    outputOf metadata.outputs name definition).mergeSort fun a b => decide (a.name ≤ b.name)

end TemplateFacts
