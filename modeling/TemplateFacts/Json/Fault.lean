import TemplateFacts.Binary64.Text
import TemplateFacts.Text.Quoted

/-! What is wrong with a text that should be a document, or with a document that should be a record. -/

namespace TemplateFacts.Json

/-- What stands where something else is expected. -/
inductive Found where
  | null
  | bool (b : Bool)
  | int (n : Int)
  | float (x : Binary64)
  | text (s : String)
  | list
  | object
deriving DecidableEq, Repr

/-- The cause of a failure to read. -/
inductive Cause where
  | endOfList
  | endOfObject
  | endOfText
  | endOfValue
  | expectedColon
  | expectedItemEnd
  | expectedMemberEnd
  | expectedIdent
  | expectedValue
  | invalidEscape
  | invalidNumber
  | numberOutOfRange
  | invalidCodePoint
  | controlCharacter
  | nameNotText
  | loneSurrogate
  | unfinishedSurrogate
  | trailingComma
  | trailingCharacters
  | tooDeep
  | invalidType (found : Found) (expected : String)
  | invalidValue (found : Found) (expected : String)
  | missingField (name : String)
  | duplicateField (name : String)
  | invalidLength (count : Nat) (expected : String)
deriving DecidableEq, Repr

/-- A cause, with the line and the column up to which the text was read when there is a text. -/
structure Fault where
  cause : Cause
  position : Option (Nat × Nat)
deriving DecidableEq, Repr

/-- What was found, in words. -/
def Found.describe : Found → String
  -- Scalars are shown, and composite documents are only named.
  | .null => "null"
  | .bool b => s!"boolean `{b}`"
  | .int n => s!"integer `{n}`"
  | .float x => s!"floating point `{x.documentText}`"
  | .text s => "string " ++ Text.quoted s
  | .list => "sequence"
  | .object => "map"

/-- The cause in words. -/
def Cause.message : Cause → String
  -- Punctuation is shown between grave accents.
  | .endOfList => "EOF while parsing a list"
  | .endOfObject => "EOF while parsing an object"
  | .endOfText => "EOF while parsing a string"
  | .endOfValue => "EOF while parsing a value"
  | .expectedColon => "expected `:`"
  | .expectedItemEnd => "expected `,` or `]`"
  | .expectedMemberEnd => "expected `,` or `\x7d`"
  | .expectedIdent => "expected ident"
  | .expectedValue => "expected value"
  | .invalidEscape => "invalid escape"
  | .invalidNumber => "invalid number"
  | .numberOutOfRange => "number out of range"
  | .invalidCodePoint => "invalid unicode code point"
  | .controlCharacter => "control character (\\u0000-\\u001F) found while parsing a string"
  | .nameNotText => "key must be a string"
  | .loneSurrogate => "lone leading surrogate in hex escape"
  | .unfinishedSurrogate => "unexpected end of hex escape"
  | .trailingComma => "trailing comma"
  | .trailingCharacters => "trailing characters"
  | .tooDeep => "recursion limit exceeded"
  | .invalidType found expected => s!"invalid type: {found.describe}, expected {expected}"
  | .invalidValue found expected => s!"invalid value: {found.describe}, expected {expected}"
  | .missingField name => s!"missing field `{name}`"
  | .duplicateField name => s!"duplicate field `{name}`"
  | .invalidLength count expected => s!"invalid length {count}, expected {expected}"

/-- The failure in words. -/
def Fault.message (fault : Fault) : String :=
  -- A document that is not read from a text has no position.
  match fault.position with
  | some (line, column) => s!"{fault.cause.message} at line {line} column {column}"
  | none => fault.cause.message

end TemplateFacts.Json
