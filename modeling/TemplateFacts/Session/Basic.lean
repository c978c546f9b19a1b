import TemplateFacts.Error
import TemplateFacts.Json.Basic
import TemplateFacts.Session.Process

/-!
A session with the compiler, which has at most one process and one connection to it.

Errands come to a session in any number and at any time. Each first enters the session, which then
has a connection or starts a process and waits for it to connect. An errand that asks something
then goes on outside the session, over the connection it got, and comes back only to fetch what
the compiler printed. Everything that may happen is an event, and any order of events is a run.
-/

namespace TemplateFacts

namespace Session

/-- What a session holds between two operations. -/
inductive Held where
  | unstarted
  /-- A process that did not connect. -/
  | starting (process : Nat)
  | connected (process connection : Nat)
  | stopped
  /-- The session itself is no more. -/
  | dropped
deriving DecidableEq, Repr

/-- An operation that waits inside the session, where no other can enter. -/
inductive Holder where
  /-- An errand waits at a socket for a process to connect. -/
  | accepting (errand process socket : Nat)
  /-- A stop waits for a connection to close. -/
  | closing (process connection : Nat)
deriving DecidableEq, Repr

/-- How far an errand has come. -/
inductive Stage where
  /-- It has not got a connection yet. -/
  | waiting
  /-- It asks its question over the connection. -/
  | asking
  /-- Its question failed, and it comes back for what the compiler printed. -/
  | diagnosing (failure : Error)
  | finished (outcome : Except Error Json)
  /-- Its caller has given up. -/
  | abandoned
deriving DecidableEq

/-- What is wanted of a session: that it is started, and perhaps the answer to a question. -/
structure Errand where
  asks : Bool
  /-- The process and the connection that it got. -/
  used : Option (Nat × Nat)
  stage : Stage
deriving DecidableEq

/-- What comes of an attempt to start a process. -/
inductive Launch where
  /-- The socket cannot be bound. -/
  | unbound (e : Error)
  /-- The socket is bound, and the process cannot be started. -/
  | unspawned (e : Error)
  | launched
deriving DecidableEq

/-- Something that may happen to a session. -/
inductive Event where
  /-- A new errand comes. -/
  | come (asks : Bool)
  /-- An errand enters; the launch is what comes of starting a process if one is needed. -/
  | enter (errand : Nat) (launch : Launch)
  /-- The process that is waited for connects. -/
  | accept
  /-- Waiting for the process fails. -/
  | failAccept (fault : IoFault)
  /-- The process was waited for too long. -/
  | expire
  /-- An errand is given up. -/
  | cancel (errand : Nat)
  /-- The question of an errand is answered, or fails. -/
  | answer (errand : Nat) (outcome : Except Error Json)
  /-- An errand comes back for what the compiler printed. -/
  | diagnose (errand : Nat)
  | stop
  /-- A stop no longer waits: the connection has closed, cannot be closed, or it is given up. -/
  | close
  /-- Bytes that a process printed are captured. -/
  | capture (process : Nat) (chunk : List UInt8)
  | drop

end Session

/-- The state of a session. -/
structure Session where
  /-- The time that a process may take to connect, in microseconds. -/
  patience : Nat
  /-- All processes ever started. -/
  processes : List Session.Process
  /-- The number of connections ever made. -/
  connections : Nat
  /-- The number of sockets ever bound. -/
  bound : Nat
  /-- The sockets whose files are there. -/
  sockets : List Nat
  held : Session.Held
  holder : Option Session.Holder
  errands : List Session.Errand
deriving DecidableEq

namespace Session

/-- A session before anything happened. -/
def start (patience : Nat) : Session where
  patience := patience
  processes := []
  connections := 0
  bound := 0
  sockets := []
  held := .unstarted
  holder := none
  errands := []

/-- The process that a session holds. -/
def Held.process? : Held → Option Nat
  | .starting process => some process
  | .connected process _ => some process
  | _ => none

/-- What a session holds in a word. -/
def Held.text : Held → String
  -- A session that is no more counts as stopped.
  | .unstarted => "unstarted"
  | .starting _ => "starting"
  | .connected .. => "connected"
  | .stopped => "stopped"
  | .dropped => "stopped"

/-- What the process that the session holds has printed. -/
def diagnostics (s : Session) : String :=
  -- Nothing is known of processes that are not held.
  match s.held.process? with
  | some process => (s.processes[process]?.map Process.printed).getD ""
  | none => ""

/-- The stage of an errand, if there is one of that number. -/
def stageOf? (s : Session) (errand : Nat) : Option Stage := s.errands[errand]?.map Errand.stage

/-- Moves an errand to a stage. -/
def moveTo (s : Session) (errand : Nat) (stage : Stage) : Session :=
  { s with errands := s.errands.modify errand fun e => { e with stage } }

/-- Asks a process to die. -/
def kill (s : Session) (process : Nat) : Session :=
  { s with processes := s.processes.modify process fun p => { p with killRequested := true } }

/-- Asks the process that the session holds to die. -/
def killHeld (s : Session) : Session :=
  match s.held.process? with
  | some process => s.kill process
  | none => s

/-- Removes the file of a socket. -/
def unbind (s : Session) (socket : Nat) : Session :=
  { s with sockets := s.sockets.filter (· != socket) }

/-- Gives an errand the connection to a process. -/
def give (s : Session) (errand process connection : Nat) : Session :=
  -- An errand that asks nothing ends here.
  { s with errands := s.errands.modify errand fun e =>
      { e with
        used := some (process, connection)
        stage := if e.asks then .asking else .finished (.ok .null) } }

/-- Starts a process for an errand, which then waits for it. -/
def launch (s : Session) (errand : Nat) : Launch → Session
  -- A socket is bound before the process is started.
  | .unbound e => s.moveTo errand (.finished (.error e))
  | .unspawned e =>
    { s with bound := s.bound + 1 }.moveTo errand (.finished (.error e))
  | .launched =>
    { s with
      processes := s.processes ++ [.fresh]
      bound := s.bound + 1
      sockets := s.sockets ++ [s.bound]
      holder := some (.accepting errand s.processes.length s.bound) }

/-- An errand enters the session. -/
def enter (s : Session) (errand : Nat) (launch : Launch) : Session :=
  -- A process that did not connect is given up for a new one.
  if s.holder = none && s.stageOf? errand = some .waiting && s.held ≠ .dropped then
    match s.held with
    | .connected process connection => s.give errand process connection
    | _ => { s.killHeld with held := .unstarted }.launch errand launch
  else s

/-- The process that is waited for connects. -/
def accept (s : Session) : Session :=
  match s.holder with
  | some (.accepting errand process socket) =>
    ({ s.unbind socket with
      connections := s.connections + 1
      held := .connected process s.connections
      holder := none }).give errand process s.connections
  | _ => s

/-- Waiting for the process ends without a connection; the process is kept to be stopped later. -/
def giveUpAccept (s : Session) (failure : (process : Nat) → Error) : Session :=
  match s.holder with
  | some (.accepting errand process socket) =>
    ({ s.unbind socket with held := .starting process, holder := none }).moveTo errand
      (.finished (.error (failure process)))
  | _ => s

/-- An errand is given up. -/
def cancel (s : Session) (errand : Nat) : Session :=
  -- A process that it waits for dies with it.
  match s.holder, s.stageOf? errand with
  | some (.accepting waiting process socket), some .waiting =>
    if waiting = errand then
      ({ s.unbind socket with holder := none }.kill process).moveTo errand .abandoned
    else s.moveTo errand .abandoned
  | _, none => s
  | _, some (.finished _) => s
  | _, some _ => s.moveTo errand .abandoned

/-- The question of an errand is answered, or fails. -/
def answer (s : Session) (errand : Nat) (outcome : Except Error Json) : Session :=
  -- Two failures are completed by what the compiler printed.
  if s.stageOf? errand = some .asking then
    match outcome with
    | .error (.remote method code text _) =>
      s.moveTo errand (.diagnosing (.remote method code text ""))
    | .error (.connectionClosed _) => s.moveTo errand (.diagnosing (.connectionClosed ""))
    | outcome => s.moveTo errand (.finished outcome)
  else s

/-- The error with what the compiler printed. -/
def withDiagnostics (stderr : String) : Error → Error
  | .remote method code text _ => .remote method code text stderr
  | .connectionClosed _ => .connectionClosed stderr
  | e => e

/-- An errand comes back for what the compiler printed. -/
def diagnose (s : Session) (errand : Nat) : Session :=
  -- The process that is held by now is the one that is looked at.
  match s.holder, s.stageOf? errand with
  | none, some (.diagnosing failure) =>
    s.moveTo errand (.finished (.error (withDiagnostics s.diagnostics failure)))
  | _, _ => s

/-- The session is stopped. -/
def stop (s : Session) : Session :=
  -- A connection is closed before its process is asked to die.
  match s.holder, s.held with
  | none, .starting process => { s.kill process with held := .stopped }
  | none, .connected process connection =>
    { s with held := .stopped, holder := some (.closing process connection) }
  | _, _ => s

/-- A stop no longer waits for the connection to close. -/
def close (s : Session) : Session :=
  match s.holder with
  | some (.closing process _) => { s.kill process with holder := none }
  | _ => s

/-- The session is dropped, when no operation is inside it. -/
def drop (s : Session) : Session :=
  if s.holder = none then { s.killHeld with held := .dropped } else s

/-- The session after an event, which is nothing new if the event cannot happen. -/
def step (s : Session) : Event → Session
  | .come asks => { s with errands := s.errands ++ [⟨asks, none, .waiting⟩] }
  | .enter errand launch => s.enter errand launch
  | .accept => s.accept
  | .failAccept fault => s.giveUpAccept fun _ => .io fault
  | .expire => s.giveUpAccept fun process =>
      .connectionTimeout s.patience ((s.processes[process]?.map Process.printed).getD "")
  | .cancel errand => s.cancel errand
  | .answer errand outcome => s.answer errand outcome
  | .diagnose errand => s.diagnose errand
  | .stop => s.stop
  | .close => s.close
  | .capture process chunk =>
    { s with processes := s.processes.modify process fun p => p.capture chunk }
  | .drop => s.drop

/-- The session after some events. -/
def run (s : Session) (events : List Event) : Session := events.foldl step s

end Session

end TemplateFacts
