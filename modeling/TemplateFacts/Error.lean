import TemplateFacts.Json.Fault
import TemplateFacts.Settings.Fault
import TemplateFacts.Path
import TemplateFacts.Text.Blank

/-! The ways in which the generation of facts fails, and what is said about each. -/

namespace TemplateFacts

/-- A refusal of the file system. -/
inductive Errno where
  | noEntry
  | accessDenied
  | busy
  | exists
  | notDirectory
  | isDirectory
  | invalidArgument
  | nameTooLong
  | notEmpty
  | tooManyLinks
  | addressInUse
  /-- The name holds a zero byte, and never reaches the system. -/
  | zeroByte
deriving DecidableEq, Repr

/-- The number of a refusal, if the system itself refuses. -/
def Errno.code? : Errno → Option Nat
  -- The numbers are those of the system interface.
  | .noEntry => some 2
  | .accessDenied => some 13
  | .busy => some 16
  | .exists => some 17
  | .notDirectory => some 20
  | .isDirectory => some 21
  | .invalidArgument => some 22
  | .nameTooLong => some 36
  | .notEmpty => some 39
  | .tooManyLinks => some 40
  | .addressInUse => some 98
  | .zeroByte => none

/-- A refusal in words. -/
def Errno.phrase : Errno → String
  -- The words are those of the system interface.
  | .noEntry => "No such file or directory"
  | .accessDenied => "Permission denied"
  | .busy => "Device or resource busy"
  | .exists => "File exists"
  | .notDirectory => "Not a directory"
  | .isDirectory => "Is a directory"
  | .invalidArgument => "Invalid argument"
  | .nameTooLong => "File name too long"
  | .notEmpty => "Directory not empty"
  | .tooManyLinks => "Too many levels of symbolic links"
  | .addressInUse => "Address already in use"
  | .zeroByte => "file name contained an unexpected NUL byte"

/-- A refusal in words, with its number. -/
def Errno.message (e : Errno) : String :=
  match e.code? with
  | some code => s!"{e.phrase} (os error {code})"
  | none => e.phrase

/-- A failure of input or output. -/
inductive IoFault where
  /-- The file system refuses. -/
  | refused (cause : Errno)
  /-- The file system refuses while a tree is walked. -/
  | walk (path : Path) (cause : Errno)
  /-- The bytes of a file are not text. -/
  | notText
  /-- The other side no longer reads. -/
  | peerGone
  /-- Closing did not end in time. -/
  | closeTimeout (milliseconds : Nat)
  /-- Any other failure, in its own words. -/
  | other (text : String)
deriving DecidableEq, Repr

/-- A failure of input or output in words. -/
def IoFault.message : IoFault → String
  -- A walk says where it stopped.
  | .refused cause => cause.message
  | .walk path cause => s!"IO error for operation on {path.text}: {cause.message}"
  | .notText => "stream did not contain valid UTF-8"
  | .peerGone => "broken pipe"
  | .closeTimeout milliseconds =>
    s!"compiler connection did not close within {milliseconds}ms"
  | .other text => text

/-- The failure in words, followed by what lies behind it. -/
def IoFault.chain : IoFault → List String
  -- Behind a walk that stopped lies the refusal that stopped it.
  | .walk path cause => [IoFault.message (.walk path cause), cause.message]
  | fault => [fault.message]

/-- The ways in which the generation of facts fails. -/
inductive Error where
  /-- The compiler never connected. -/
  | connectionTimeout (microseconds : Nat) (stderr : String)
  /-- The compiler is missing or cannot be run. -/
  | subprocessUnavailable (executable reason : String)
  /-- The compiler reported failure or returned no template. -/
  | compilationFailed (path : Path) (diagnostics : List (String × String))
  /-- The facts violate their contract. -/
  | schemaValidationFailed (violations : List String)
  /-- The compiler answered with an error. -/
  | remote (method : String) (code : Int) (text stderr : String)
  /-- The connection ended while requests were outstanding. -/
  | connectionClosed (stderr : String)
  /-- The other side broke the rules of the wire. -/
  | protocol (text : String)
  /-- The compiled template cannot be read. -/
  | invalidTemplate (path : Path) (reason : String)
  /-- An option is refused. -/
  | invalidArgument (text : String)
  /-- The contract cannot be used. -/
  | schema (text : String)
  /-- Some files failed while the run went on. -/
  | filesFailed (failed total : Nat)
  | config (fault : Settings.Fault)
  | io (fault : IoFault)
  | serialization (fault : Json.Fault)
deriving DecidableEq, Repr

namespace Error

/-- What the compiler printed, as the end of a message. -/
def stderrSuffix (stderr : String) : String :=
  -- Nothing is said when nothing but blanks was printed.
  let trimmed := Text.trim stderr
  if trimmed == "" then "" else " Compiler stderr: " ++ trimmed

/-- The words for a failed compilation. -/
def compilationMessage (path : Path) (diagnostics : List (String × String)) : String :=
  -- Without diagnostics the sentence ends with its full stop.
  let summary := Text.join " | " (diagnostics.map fun d => s!"{d.1}: {d.2}")
  Text.trim s!"Bicep compilation failed for {path.text}. {summary}"

/-- The error in words. -/
def message : Error → String
  -- Wrapped failures are introduced by their kind.
  | .connectionTimeout microseconds stderr =>
    s!"Timed out waiting for Bicep JSON-RPC connection after {microseconds / 1000}ms."
      ++ stderrSuffix stderr
  | .subprocessUnavailable executable reason =>
    s!"Bicep CLI not found or failed to run ({executable}): {reason}"
  | .compilationFailed path diagnostics => compilationMessage path diagnostics
  | .schemaValidationFailed [] => "Schema validation failed"
  | .schemaValidationFailed violations => Text.join "; " violations
  | .remote method code text stderr =>
    s!"{method} failed: {text} (code {code})." ++ stderrSuffix stderr
  | .connectionClosed stderr => "Bicep JSON-RPC connection closed." ++ stderrSuffix stderr
  | .protocol text => "protocol error: " ++ text
  | .invalidTemplate path reason => s!"invalid compiled template for {path.text}: {reason}"
  | .invalidArgument text => text
  | .schema text => "schema error: " ++ text
  | .filesFailed failed total => s!"{failed} of {total} file(s) failed"
  | .config fault => "configuration error: " ++ fault.message
  | .io fault => "I/O error: " ++ fault.message
  | .serialization fault => "serialization error: " ++ fault.message

/-- The error in words, followed by what lies behind it. -/
def chain (e : Error) : List String :=
  -- Only wrapped failures have something behind them.
  match e with
  | .config fault => [e.message, fault.message]
  | .io fault => e.message :: fault.chain
  | .serialization fault => [e.message, fault.message]
  | e => [e.message]

/-- The error concerns the file in hand only, and not the whole run. -/
def isFileScoped : Error → Bool
  -- These three are found after the compiler has answered for the file.
  | .compilationFailed .. => true
  | .schemaValidationFailed .. => true
  | .invalidTemplate .. => true
  | _ => false

end Error

/-- Outcomes are compared by their kind and by what they hold. -/
instance decEqOutcome {ε α : Type} [DecidableEq ε] [DecidableEq α] : DecidableEq (Except ε α)
  -- A failure never equals a success.
  | .ok a, .ok b => decidable_of_iff (a = b) ⟨congrArg Except.ok, Except.ok.inj⟩
  | .error a, .error b => decidable_of_iff (a = b) ⟨congrArg Except.error, Except.error.inj⟩
  | .ok _, .error _ => isFalse fun h => nomatch h
  | .error _, .ok _ => isFalse fun h => nomatch h

end TemplateFacts
