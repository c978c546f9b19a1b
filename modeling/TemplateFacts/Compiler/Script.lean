import TemplateFacts.Compiler.Client
import TemplateFacts.FileTree.Walk
import TemplateFacts.Wire.Exchange

/-!
Compilers that follow a script, and the programs that are run as compilers.

A script says what the compiler prints when it is started, and how it answers each request: by the
first rule that fits. Replies may be held back until there are some of them, and are then sent in
reverse order.
-/

namespace TemplateFacts.Compiler

/-- What a rule does with a request. -/
inductive Action where
  /-- The compiler ends. -/
  | hangUp
  /-- Bytes are sent in the place of a frame. -/
  | raw (bytes : List UInt8)
  /-- A reply is sent, with these members and perhaps another id. -/
  | reply (id : Option Json) (members : List (String × Json))

/-- A rule for requests. -/
structure Rule where
  /-- The method that the rule is for. -/
  method : Option String
  /-- The end of the paths that the rule is for. -/
  pathEnd : Option String
  /-- The messages that are sent first. -/
  before : List Json
  action : Action

/-- What a program prints when it is asked for its banner, and how it ends. -/
structure Probe where
  stdout : String
  stderr : String
  exit : Int

/-- What a scripted compiler does. -/
structure Script where
  /-- The arguments that must stand before its own. -/
  args : List String
  probe : Probe
  /-- What it prints as errors when it is started. -/
  stderr : String
  /-- It connects when it is started. -/
  connects : Bool
  /-- The number of replies that are held back. -/
  batch : Nat
  rules : List Rule

namespace Script

/-- What the compiler prints when it is not called as it wants to be. -/
def misuse : String := "unexpected arguments\n"

/-- How the compiler ends when it is not called as it wants to be. -/
def misuseExit : Int := 64

/-- The probe of a compiler that says nothing else. -/
def usualProbe : Probe := ⟨"Bicep CLI version 0.30.23\n", "", 0⟩

/-- The rule fits a request. -/
def Rule.fits (rule : Rule) (method path : String) : Bool :=
  -- What a rule does not say fits everything.
  (rule.method.map (· == method)).getD true
    && (rule.pathEnd.map (Text.endsWith path)).getD true

/-- What is done with requests that no rule fits. -/
def unruled : Action :=
  .reply none [("error", .object [("code", .int Wire.unknownMethodCode),
    ("message", .text "no rule")])]

/-- The rule for a request. -/
def ruleFor (script : Script) (method path : String) : Rule :=
  (script.rules.find? fun rule => Rule.fits rule method path).getD ⟨none, none, [], unruled⟩

/-- The frame of a message. -/
def frameOf (j : Json) : List UInt8 := Wire.writeFrame (Utf8.encode (Json.compact j))

/-- The frame of a reply. -/
def replyFrame (id : Json) (members : List (String × Json)) : List UInt8 :=
  frameOf (.object ([("jsonrpc", Wire.rulesVersion), ("id", id)] ++ members))

end Script

/-- A scripted compiler at the other end of a connection. -/
structure Link where
  script : Script
  exchange : Wire.Exchange
  /-- The replies that are held back, the last one first. -/
  waiting : List (List UInt8)

namespace Link

/-- A compiler that has just connected. -/
def start (script : Script) (capacity : Nat) : Link := ⟨script, .start capacity true, []⟩

/-- The compiler sends some bytes. -/
def send (link : Link) (bytes : List UInt8) : Link :=
  { link with exchange := (link.exchange.send bytes).1 }

/-- Sends a reply, or holds it back. -/
def reply (link : Link) (method : String) (bytes : List UInt8) : Link :=
  -- The version is never held back.
  if method == Method.wireText .version then link.send bytes
  else if link.waiting.length + 1 < link.script.batch then
    { link with waiting := bytes :: link.waiting }
  else (bytes :: link.waiting).foldl send { link with waiting := [] }

/-- Takes up a message that was sent to the compiler. -/
def take (link : Link) (j : Json) : Link :=
  -- Only requests are taken up, and none by a compiler that has ended.
  if link.exchange.connection.peerGone then link
  else match j.get? "method" with
    | some (.text method) =>
      let path := Json.textOf "path" ((j.get? "params").getD .null)
      let rule := link.script.ruleFor method path
      let link := (rule.before.map Script.frameOf).foldl send link
      match rule.action with
      | .hangUp => { link with exchange := link.exchange.after .hangUp, waiting := [] }
      | .raw bytes => link.reply method bytes
      | .reply id members =>
        let id := id.getD ((j.get? "id").getD .null)
        link.reply method (Script.replyFrame id members)
    | _ => link

end Link

/-- How a compiler is run. -/
structure Command where
  executable : Path
  /-- What stands before the compiler's own arguments. -/
  args : List String
deriving DecidableEq, Repr

/-- The place in which programs are run: a tree of files in which one file is a compiler. -/
structure Programs where
  cwd : Path
  /-- The names that lead to the file of the compiler. -/
  file : List String
  script : Script

/-- What is said of texts that no system call accepts. -/
def zeroByteReason : String := "nul byte found in provided data"

/-- Why a program cannot be run, if it cannot. -/
def Programs.obstacle (programs : Programs) (command : Command) (tree : FileTree) :
    Option String :=
  -- Names without a slash are searched for elsewhere, where there are none.
  let name := command.executable.text
  let isBad (s : String) : Bool := s.toList.contains '\x00'
  if isBad name || command.args.any isBad then some zeroByteReason
  else if !name.toList.contains '/' then some Errno.noEntry.message
  else match tree.stat programs.cwd command.executable true with
    | .error e => some e.message
    | .ok (names, _) =>
      if names == programs.file then none else some Errno.accessDenied.message

/-- The error that a program cannot be run for some reason. -/
def Command.unavailable (command : Command) (reason : String) : Error :=
  .subprocessUnavailable command.executable.text reason

/-- What a program prints and how it ends when it is asked for its banner. -/
def Programs.probe (programs : Programs) (command : Command) : Probe :=
  -- The compiler insists on its arguments.
  if command.args == programs.script.args then programs.script.probe
  else ⟨"", Script.misuse, Script.misuseExit⟩

/-- Asks a program for its banner. -/
def banner (programs : Programs) (command : Command) (tree : FileTree) : Except Error String :=
  -- A program that ends badly is as good as none.
  match programs.obstacle command tree with
  | some reason => .error (command.unavailable reason)
  | none =>
    let probe := programs.probe command
    if probe.exit == 0 then .ok (Text.trim probe.stdout)
    else .error (command.unavailable
      s!"exited with exit status: {probe.exit}: {Text.trim probe.stderr}")

end TemplateFacts.Compiler
