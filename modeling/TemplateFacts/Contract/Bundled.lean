import TemplateFacts.Contract.Schema

/-! The contract that facts satisfy. -/

namespace TemplateFacts.Contract

/-- A text with at least one character. -/
def nonEmptyText : Contract := .all [.minLength 1, .kinds [.string]]

/-- Any text. -/
def anyText : Contract := .kinds [.string]

/-- One of some texts. -/
def oneOf (texts : List String) : Contract := .enum (texts.map .text)

/-- A list whose items satisfy a contract. -/
def listOf (item : Contract) : Contract := .all [.items item, .kinds [.array]]

/-- An object with the known members only, some of them required. -/
def record (required : List String) (known : List (String × Contract)) : Contract :=
  .all [.closed known, .required required, .kinds [.object]]

/-- A lower-case hexadecimal digit. -/
def hashDigit : Text.CharClass :=
  -- The parts of a class are added one after the other.
  .either (.either (.ranges []) (.ranges [(0x30, 0x39)])) (.ranges [(0x61, 0x66)])

/-- Sixty-four lower-case hexadecimal digits. -/
def hashPattern : Pattern :=
  -- The whole text is made of them.
  .seq .textStart (.seq (.repeated (.char hashDigit) 64 (some 64) true) (.seq .textEnd .nothing))

/-- The written form of the pattern. -/
def hashSource : String := "^[0-9a-f]\x7b64\x7d$"

/-- The contract for scopes. -/
def scopeContract : Contract :=
  oneOf ["subscription", "resourceGroup", "managementGroup", "tenant"]

/-- The contract for types of parameters and outputs. -/
def valueTypeContract : Contract := oneOf ["string", "int", "bool", "array", "object"]

/-- The contract for constraints. -/
def constraintsContract : Contract :=
  .all [
    .closed [
      ("allowed", .kinds [.array]),
      ("maxLength", always),
      ("maxValue", always),
      ("minLength", always),
      ("minValue", always),
      ("pattern", always)],
    .kinds [.object]]

/-- The contract for parameters. -/
def parameterContract : Contract :=
  record ["name", "type", "required", "defaultKind"] [
    ("constraints", constraintsContract),
    ("default", always),
    ("defaultExpression", anyText),
    ("defaultKind", oneOf ["none", "literal", "expression"]),
    ("description", anyText),
    ("name", nonEmptyText),
    ("required", .kinds [.boolean]),
    ("sensitive", .const (.bool true)),
    ("type", valueTypeContract)]

/-- The contract for outputs. -/
def outputContract : Contract :=
  record ["name", "type"] [
    ("description", anyText),
    ("name", nonEmptyText),
    ("type", valueTypeContract)]

/-- The contract for modules. -/
def moduleContract : Contract :=
  record ["name", "path", "condition"] [
    ("condition", record ["kind"] [("kind", oneOf ["always", "conditional", "foreach"])]),
    ("name", nonEmptyText),
    ("path", nonEmptyText),
    ("scope", scopeContract)]

/-- The contract for the capabilities. -/
def capabilitiesContract : Contract :=
  record ["category"] [
    ("category", oneOf ["networking", "compute", "data", "security", "messaging",
      "integration", "ai", "unknown"]),
    ("features", listOf nonEmptyText)]

/-- The contract for the provenance. -/
def provenanceContract : Contract :=
  record ["generatedAt", "generator"] [
    ("generatedAt", .all [.ofFormat .dateTime, .kinds [.string]]),
    ("generator", nonEmptyText),
    ("notes", listOf anyText)]

/-- The contract for the scopes of a component. -/
def scopesContract : Contract :=
  record ["allowed", "default"] [
    ("allowed", .all [.items scopeContract, .minItems 1, .kinds [.array], .uniqueItems]),
    ("default", scopeContract)]

/-- The contract for the source of a component. -/
def sourceContract : Contract :=
  record ["path", "hash", "compilerVersion"] [
    ("compilerVersion", nonEmptyText),
    ("hash", .all [.pattern (.plain hashPattern) hashSource, .kinds [.string]]),
    ("path", nonEmptyText)]

/-- The contract for facts. -/
def factsContract : Contract :=
  record ["schemaVersion", "componentId", "source", "scopes", "parameters", "outputs",
      "capabilities", "meta"] [
    ("capabilities", capabilitiesContract),
    ("componentId", nonEmptyText),
    ("meta", provenanceContract),
    ("modules", .all [.items moduleContract, .minItems 1, .kinds [.array]]),
    ("outputs", listOf outputContract),
    ("parameters", listOf parameterContract),
    ("schemaVersion", .const (.text "facts.v1")),
    ("scopes", scopesContract),
    ("source", sourceContract)]

/-- The contract for facts, which refers to nothing. -/
def bundled : Schema := { root := factsContract, definitions := [] }

end TemplateFacts.Contract
