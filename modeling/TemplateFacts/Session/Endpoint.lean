import TemplateFacts.Error
import TemplateFacts.Text.Quoted
import TemplateFacts.Text.Lines

/-!
Endpoints, at which the compiler connects.

An endpoint is a socket with a random name in the directory for temporary files. Its file is there
from the time it is bound until the listener is gone.
-/

namespace TemplateFacts.Session

/-- An endpoint: the name that the compiler is told, and the socket that is listened to. -/
structure Endpoint where
  name : String
  path : Path
deriving DecidableEq, Repr

namespace Endpoint

/-- The number of random bytes in the name of an endpoint. -/
def randomBytes : Nat := 21

/-- The part of the name that random bytes make. -/
def suffix (bytes : List UInt8) : String := Text.hexOfBytes Text.hexDigit bytes

/-- The endpoint of some random bytes in a directory for temporary files. -/
def ofBytes (directory : Path) (bytes : List UInt8) : Endpoint :=
  -- The compiler is told the whole path.
  let path := directory.join ⟨s!"bicep-{suffix bytes}.sock"⟩
  ⟨path.text, path⟩

/-- Binds the socket of an endpoint, given the sockets whose files are there. -/
def bind (endpoint : Endpoint) (sockets : List Path) : Except Errno (List Path) :=
  -- A file that is there already is not taken over.
  if sockets.contains endpoint.path then .error .addressInUse else .ok (endpoint.path :: sockets)

/-- Removes the file of an endpoint whose listener is gone. -/
def release (endpoint : Endpoint) (sockets : List Path) : List Path :=
  sockets.filter (· ≠ endpoint.path)

end Endpoint

end TemplateFacts.Session
