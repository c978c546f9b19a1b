import TemplateFacts.Compiler.Answer
import TemplateFacts.Json.Writer

/-! The messages that the two sides of a connection send each other. -/

namespace TemplateFacts.Wire

/-- What an answer says instead of a result. -/
structure ErrorObject where
  code : Int
  message : String
  data : Option Json
deriving DecidableEq

/-- A message of the other side: an answer, a notification or a request. -/
structure Message where
  /-- The id, which is there even if it is null. -/
  id : Option Json
  method : Option String
  result : Json
  error : Option ErrorObject
deriving DecidableEq

/-- The shape of errors. -/
def ErrorObject.shape : Json.Shape :=
  .record "ErrorObject" [
    ("code", .refused, .integer),
    ("message", .refused, .text),
    ("data", .replaced .null, .optional .any)]

/-- The shape of messages. -/
def Message.shape : Json.Shape :=
  .record "IncomingMessage" [
    ("id", .omitted, .any),
    ("method", .replaced .null, .optional .text),
    ("result", .replaced .null, .any),
    ("error", .replaced .null, .optional ErrorObject.shape)]

/-- The document, unless it is null. -/
def presentValue : Json → Option Json
  | .null => none
  | j => some j

/-- The error that a document of its shape holds. -/
def ErrorObject.ofRecord (j : Json) : ErrorObject :=
  ⟨((j.get? "code").bind Json.asInt?).getD 0, Json.textOf "message" j,
    (j.get? "data").bind presentValue⟩

/-- The message that a document of its shape holds. -/
def Message.ofRecord (j : Json) : Message where
  id := j.get? "id"
  method := Json.textOf? "method" j
  result := (j.get? "result").getD .null
  error := ((j.get? "error").bind presentValue).map ErrorObject.ofRecord

/-- The message that a payload carries. -/
def Message.ofPayload (payload : List UInt8) : Except Json.Fault Message :=
  (Message.shape.ofBytes payload).map Message.ofRecord

/-- The version of the rules that both sides follow. -/
def rulesVersion : Json := .text "2.0"

/-- The payload of a request. -/
def requestPayload (id : Nat) (method : String) (params : Json) : List UInt8 :=
  Utf8.encode (Json.compact (.object [
    ("jsonrpc", rulesVersion), ("id", .int id), ("method", .text method), ("params", params)]))

/-- The code of the error that refuses a request. -/
def unknownMethodCode : Int := -32601

/-- The payload that refuses a request of the other side. -/
def refusalPayload (id : Json) (method : String) : List UInt8 :=
  -- The id is sent back as it came.
  Utf8.encode (Json.compact (.object [
    ("jsonrpc", rulesVersion), ("id", id),
    ("error", .object [
      ("code", .int unknownMethodCode),
      ("message", .text s!"Unhandled method {method}")])]))

end TemplateFacts.Wire
