import TemplateFacts.Utf8

/-! Processes of the compiler, and what they print as errors. -/

namespace TemplateFacts.Session

/-- A process of the compiler. -/
structure Process where
  /-- What it printed as errors and was captured so far. -/
  printed : String
  /-- It was asked to die. -/
  killRequested : Bool
deriving DecidableEq, Repr

/-- A process that was just started. -/
def Process.fresh : Process := ⟨"", false⟩

/-- The process after some bytes that it printed were captured. -/
def Process.capture (process : Process) (chunk : List UInt8) : Process :=
  -- Each chunk is taken for text by itself.
  { process with printed := process.printed ++ Utf8.decodeLossy chunk }

/-- The greatest number of bytes that are captured at once. -/
def greatestChunk : Nat := 4096

/-- Bytes in chunks of a size, the last one being smaller if need be. -/
def chunksFor (size : Nat) : (fuel : Nat) → List UInt8 → List (List UInt8)
  -- Each chunk takes at least one byte.
  | 0, _ => []
  | fuel + 1, bytes =>
    if bytes.isEmpty then [] else bytes.take size :: chunksFor size fuel (bytes.drop size)

/-- Bytes in the greatest chunks that they can be captured in. -/
def greatestChunks (bytes : List UInt8) : List (List UInt8) :=
  chunksFor greatestChunk bytes.length bytes

/-- The text that is captured of chunks. -/
def captured (chunks : List (List UInt8)) : String :=
  (chunks.foldl Process.capture .fresh).printed

end TemplateFacts.Session
