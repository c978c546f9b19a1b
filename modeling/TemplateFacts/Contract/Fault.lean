import TemplateFacts.Contract.Basic
import TemplateFacts.Error

/-! Why a document cannot be used as a contract. -/

namespace TemplateFacts.Contract

/-- Why a resource cannot be fetched. -/
inductive Absence where
  /-- Resources are not fetched while a contract is read. -/
  | late
  | unknownScheme (scheme : String)
  | unreadable (cause : Errno)
  | malformed (fault : Json.Fault)
  /-- Nobody answers at the place. -/
  | unanswered (place : Uri)

/-- Why a resource cannot be fetched, in words. -/
def Absence.message : Absence → String
  -- The place is named where it is asked over a network.
  | .late => "Retrieving external resources is not supported once the registry is populated"
  | .unknownScheme scheme => s!"Unknown scheme {scheme}"
  | .unreadable cause => cause.message
  | .malformed fault => fault.message
  | .unanswered place => s!"error sending request for url ({place.text})"

/-- Why a document cannot be used as a contract. -/
inductive Fault where
  | notJson (fault : Json.Fault)
  /-- A part of the document is not as the grammar of contracts demands. -/
  | refused (subject : Json) (problem : Problem)
  | unknownKind
  | unknownDraft (name : String)
  | badReference (text : String) (fault : Uri.Fault)
  | unresolved (text : String) (base : Uri) (clash : Uri.Clash)
  | absent (place : Uri) (absence : Absence)
  /-- Nothing has the name within a resource. -/
  | noAnchor (name : String)
  | badAnchor (name : String)
  /-- A pointer leads nowhere. -/
  | nowhere (pointer : String)
  | badIndex (segment pointer : String)
  | badEscape (pointer : String)

/-- Why a document cannot be used as a contract, in words. -/
def Fault.message : Fault → String
  -- What the document writes is quoted as it stands.
  | .notJson fault => s!"schema is not valid JSON: {fault.message}"
  | .refused subject problem => problem.message subject
  | .unknownKind => "Unexpected type"
  | .unknownDraft name => s!"Unknown specification: {name}"
  | .badReference text fault => s!"Invalid URI reference '{text}': {fault.message}"
  | .unresolved text base clash =>
    s!"Failed to resolve '{text}' against '{base.text}': {clash.message}"
  | .absent place absence =>
    s!"Resource '{place.text}' is not present in a registry and retrieving it failed: "
      ++ absence.message
  | .noAnchor name => s!"Anchor '{name}' does not exist"
  | .badAnchor name => s!"Anchor '{name}' is invalid"
  | .nowhere pointer => s!"Pointer '{pointer}' does not exist"
  | .badIndex segment pointer => s!"Failed to parse array index '{segment}' in pointer '{pointer}'"
  | .badEscape pointer =>
    s!"Invalid percent encoding in pointer '{pointer}': "
      ++ "the decoded bytes do not represent valid UTF-8"

end TemplateFacts.Contract
