import TemplateFacts.Text.Blank
import TemplateFacts.Text.Case
import TemplateFacts.Text.Digits
import TemplateFacts.Text.Lines
import TemplateFacts.Utf8

/-!
Frames: how payloads are cut out of a stream of bytes.

A frame is a block of header lines, a blank line, and a payload of as many bytes as the header for
its length tells. Reading is told whether the stream has ended, and so can ask for more bytes.
-/

namespace TemplateFacts.Wire

/-- What is wrong with a stream of frames. -/
inductive FrameFault where
  /-- The value of the header for the length is no number. -/
  | wrongLength (value : String)
  | missingLength
  /-- The payload would be longer than any payload may be. -/
  | tooLong (length : Nat)
  /-- A header line is not text. -/
  | notText (fault : Utf8.Fault)
  | endInHeaders
  | endInPayload
deriving DecidableEq, Repr

/-- The bytes break the rules, and are not merely cut off. -/
def FrameFault.isMalformed : FrameFault → Bool
  -- Only an early end is no malformation.
  | .endInHeaders => false
  | .endInPayload => false
  | _ => true

/-- The fault in words. -/
def FrameFault.message : FrameFault → String
  -- Lengths are shown as they were found.
  | .wrongLength value => s!"invalid Content-Length header: {value}"
  | .missingLength => "missing Content-Length header"
  | .tooLong length => s!"message of {length} bytes exceeds limit"
  | .notText fault => fault.message
  | .endInHeaders => "stream ended inside message headers"
  | .endInPayload => "early eof"

/-- What can be read at the beginning of a stream. -/
inductive FrameReading where
  | frame (payload rest : List UInt8)
  /-- The stream has ended where a frame would begin. -/
  | ended
  | faulty (fault : FrameFault)
  /-- More bytes are needed. -/
  | unfinished
deriving DecidableEq, Repr

/-- The greatest number of bytes of a payload. -/
def greatestPayload : Nat := 256 * 1024 * 1024

/-- The name of the header that tells the length of the payload. -/
def lengthName : String := "Content-Length"

/-- What a header line says. -/
inductive HeaderLine where
  | blank
  | length (n : Nat)
  | other
  | wrong (fault : FrameFault)
deriving DecidableEq, Repr

/-- The line without the marks of its end. -/
def withoutEnd (line : String) : String :=
  -- Any number of carriage returns may stand before the line feed.
  String.ofList (line.toList.reverse.dropWhile fun c => c == '\r' || c == '\n').reverse

/-- The greatest length that a header can tell. -/
def greatestWritten : Nat := 18446744073709551615

/-- What the value of the header for the length says. -/
def lengthOfValue (value : List Char) : HeaderLine :=
  -- The number must fit a machine word.
  let trimmed := Text.trim (String.ofList value)
  match Text.readSignedNat? trimmed.toList with
  | some n => if n ≤ greatestWritten then .length n else .wrong (.wrongLength trimmed)
  | none => .wrong (.wrongLength trimmed)

/-- What the bytes of a line say. -/
def headerLine (bytes : List UInt8) : HeaderLine :=
  -- A name ends at the first colon, and a line without one says nothing.
  match Utf8.decode bytes with
  | .error fault => .wrong (.notText fault)
  | .ok line =>
    let header := (withoutEnd line).toList
    if header.isEmpty then .blank
    else
      match header.dropWhile (· != ':') with
      | [] => .other
      | _ :: value =>
        let name := String.ofList (header.takeWhile (· != ':'))
        if Text.asciiCaseEq (Text.trim name) lengthName then lengthOfValue value
        else .other

/-- Reads the payload behind the headers. -/
def readPayload (ended : Bool) (length : Option Nat) (rest : List UInt8) : FrameReading :=
  -- The length is checked before any byte is waited for.
  match length with
  | none => .faulty .missingLength
  | some n =>
    if greatestPayload < n then .faulty (.tooLong n)
    else if n ≤ rest.length then .frame (rest.take n) (rest.drop n)
    else if ended then .faulty .endInPayload
    else .unfinished

/-- Where the reading of headers stands: the last length told, and whether there was any header. -/
structure Headers where
  length : Option Nat
  begun : Bool
deriving DecidableEq, Repr

/-- Reads headers from a stream, given the bytes of the line in hand, the last one first. -/
def readHeaders (ended : Bool) (headers : Headers) (line : List UInt8) :
    List UInt8 → FrameReading
  -- A line that the stream ends in is taken for a whole one.
  | [] =>
    if !ended then .unfinished
    else if line.isEmpty then if headers.begun then .faulty .endInHeaders else .ended
    else
      match headerLine line.reverse with
      | .wrong fault => .faulty fault
      | .blank => if headers.begun then readPayload ended headers.length [] else .ended
      | _ => .faulty .endInHeaders
  | b :: rest =>
    if b == 10 then
      match headerLine (b :: line).reverse with
      | .wrong fault => .faulty fault
      | .blank =>
        if headers.begun then readPayload ended headers.length rest
        else readHeaders ended headers [] rest
      | .length n => readHeaders ended ⟨some n, true⟩ [] rest
      | .other => readHeaders ended { headers with begun := true } [] rest
    else readHeaders ended headers (b :: line) rest

/-- Reads the first frame of a stream, blank lines before it being passed over. -/
def readFrame (ended : Bool) (bytes : List UInt8) : FrameReading :=
  readHeaders ended ⟨none, false⟩ [] bytes

/-- The frame that carries a payload. -/
def writeFrame (payload : List UInt8) : List UInt8 :=
  -- The only header is the length.
  Utf8.encode s!"{lengthName}: {payload.length}\r\n\r\n" ++ payload

/-- Reads frames until the stream ends or is faulty, given a bound on their number. -/
def readFrames : (fuel : Nat) → List UInt8 → List (List UInt8) × Option FrameFault
  -- A stream is read to its end, so that nothing is waited for.
  | 0, _ => ([], none)
  | fuel + 1, bytes =>
    match readFrame true bytes with
    | .frame payload rest =>
      let (payloads, fault) := readFrames fuel rest
      (payload :: payloads, fault)
    | .faulty fault => ([], some fault)
    | _ => ([], none)

/-- All frames of a stream, and what is wrong behind the last of them. -/
def framesOf (bytes : List UInt8) : List (List UInt8) × Option FrameFault :=
  -- Every frame takes a byte at least.
  readFrames (bytes.length + 1) bytes

end TemplateFacts.Wire
