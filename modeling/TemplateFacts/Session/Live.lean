import TemplateFacts.Compiler.Question
import TemplateFacts.Compiler.Script
import TemplateFacts.Session.Basic

/-! Sessions with a scripted compiler, one errand or one group of errands after another. -/

namespace TemplateFacts.Session

open Compiler (Command Description Link Programs Question)

/-- A session, the compiler it talks to, and the tree in which the compiler is found. -/
structure Live where
  session : Session
  programs : Programs
  command : Command
  tree : FileTree
  /-- The other end of the connection, if there is one. -/
  link : Option Link

/-- The number of bytes that fit into a connection without being taken. -/
def linkCapacity : Nat := 65536

namespace Live

/-- A session that is not started. -/
def start (patience : Nat) (programs : Programs) (command : Command) (tree : FileTree) : Live :=
  ⟨Session.start patience, programs, command, tree, none⟩

/-- The live session after an event of the session. -/
def after (live : Live) (event : Event) : Live :=
  { live with session := live.session.step event }

/-- What comes of starting the compiler. -/
def launch (live : Live) : Launch :=
  match live.programs.obstacle live.command live.tree with
  | some reason => .unspawned (live.command.unavailable reason)
  | none => .launched

/-- A process was started and does what its script says until it connects, or does not. -/
def boot (live : Live) (process : Nat) : Live :=
  -- A compiler that is not called as it wants to be prints that and ends.
  let script := live.programs.script
  let wanted := live.command.args == script.args
  let printed := Utf8.encode (if wanted then script.stderr else Compiler.Script.misuse)
  let live := (greatestChunks printed).foldl (fun live chunk =>
    live.after (.capture process chunk)) live
  if wanted && script.connects then
    { live.after .accept with link := some (.start script linkCapacity) }
  else live.after .expire

/-- A new errand comes and enters, and waits if it has to. -/
def enter (live : Live) (asks : Bool) : Live × Nat :=
  -- The number of an errand is its place.
  let errand := live.session.errands.length
  let live := (live.after (.come asks)).after (.enter errand live.launch)
  match live.session.holder with
  | some (.accepting _ process _) => (live.boot process, errand)
  | _ => (live, errand)

/-- The outcome of an errand; one that never ends counts as lost. -/
def outcome (live : Live) (errand : Nat) : Except Error Json :=
  match live.session.stageOf? errand with
  | some (.finished outcome) => outcome
  | _ => .error (.connectionClosed live.session.diagnostics)

/-- Starts the session. -/
def begin (live : Live) : Live × Except Error Unit :=
  let (live, errand) := live.enter false
  (live, (live.outcome errand).map fun _ => ())

/-- An errand under way, with the number of its request. -/
structure Asked where
  errand : Nat
  request : Option Nat

/-- An errand comes with a question, and asks it if it gets a connection. -/
def ask (live : Live) (question : Question) : Live × Asked :=
  let (live, errand) := live.enter true
  match live.session.stageOf? errand, live.link with
  | some .asking, some link =>
    let (exchange, request) := link.exchange.request question.request
    ({ live with link := some { link with exchange } }, ⟨errand, some request⟩)
  | _, _ => (live, ⟨errand, none⟩)

/-- Brings an answer to an errand, if it is there. -/
def collect (live : Live) (asked : Asked) : Live :=
  -- What the compiler printed is fetched at once.
  match asked.request, live.link with
  | some request, some link =>
    match link.exchange.outcome? request with
    | some outcome =>
      (live.after (.answer asked.errand outcome)).after (.diagnose asked.errand)
    | none => live
  | _, _ => live

/-- The errand has ended. -/
def hasEnded (live : Live) (asked : Asked) : Bool :=
  match live.session.stageOf? asked.errand with
  | some (.finished _) => true
  | _ => false

/-- The compiler takes up what it was sent, and errands take their answers as they come. -/
def serve (live : Live) (asked : List Asked) : Live :=
  -- Messages that came before are taken up first.
  match live.link with
  | none => live
  | some link =>
    let (payloads, _) := Wire.framesOf link.exchange.connection.delivered
    let exchange := { link.exchange with
      connection := { link.exchange.connection with delivered := [] } }
    let live := asked.foldl collect { live with link := some { link with exchange } }
    (payloads.filterMap fun payload => (Json.ofBytes payload).toOption).foldl (fun live j =>
      asked.foldl collect { live with link := live.link.map fun link => link.take j }) live

/-- Gives up an errand that has not ended, and its request. -/
def giveUp (live : Live) (asked : Asked) : Live :=
  -- A late answer finds nobody.
  if live.hasEnded asked then live
  else
    let live := live.after (.cancel asked.errand)
    match asked.request, live.link with
    | some request, some link =>
      { live with link := some { link with exchange := link.exchange.after (.abandon request) } }
    | _, _ => live

/-- Asks some questions at once, and gives up those that are not answered. -/
def askAll (live : Live) (questions : List Question) : Live × List (Except Error Json) :=
  -- The compiler is quicker than the next question, and no answer is waited for.
  let (live, asked) := questions.foldl (fun (live, asked) question =>
    let (live, one) := live.ask question
    let asked := asked ++ [one]
    (live.serve asked, asked)) (live, [])
  (asked.foldl giveUp live, asked.map fun one => live.outcome one.errand)

/-- Asks one question. -/
def askOne (live : Live) (question : Question) : Live × Except Error Json :=
  let (live, asked) := live.ask question
  let live := live.serve [asked]
  (live.giveUp asked, live.outcome asked.errand)

/-- Stops the session. -/
def stop (live : Live) : Live :=
  -- A failure to close the connection is passed over.
  let live := live.after .stop
  { live.after .close with
    link := live.link.map fun link => { link with exchange := link.exchange.close.1 } }

/-- Asks for the version. -/
def version (live : Live) : Except Error String × Live :=
  let (live, outcome) := live.askOne .version
  (outcome.map (Json.textOf "version"), live)

/-- The description that the answers give, or the first failure of them. -/
def describedBy : List (Except Error Json) → Except Error Description
  | [.ok compile, .ok metadata, .ok graph] => .ok (.ofRecords compile metadata graph)
  | outcomes =>
    match outcomes.findSome? fun
      | .error e => some e
      | .ok _ => none with
    | some e => .error e
    | none => .error (.connectionClosed "")

/-- Asks for the description of a source. -/
def describe (file : Path) (live : Live) : Except Error Description × Live :=
  let (live, outcomes) := live.askAll (Question.about file)
  (describedBy outcomes, live)

/-- The session as a client of the compiler. -/
def client : Compiler.Client Live where
  version := version
  describe := describe

end Live

end TemplateFacts.Session
