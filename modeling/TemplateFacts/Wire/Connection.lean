import TemplateFacts.Error
import TemplateFacts.Wire.Frame
import TemplateFacts.Wire.Message

/-!
A connection over which many requests are under way at once.

Requests are numbered by a counter, and answers are brought to their requests by number, in whatever
order they arrive. A request itself is known by its place among all requests ever made. All writing goes through one writer, which is handed on in the order of a line. A single
reader takes the arriving frames one after another. Everything that may happen is an event, and any
order of events is a run.
-/

namespace TemplateFacts.Wire

/-- What is asked of the other side, and the shape that the result must have. -/
structure Request where
  method : String
  params : Json
  result : Json.Shape

/-- What comes to a request from the reading side. -/
inductive Reply where
  | result (value : Json)
  | error (e : ErrorObject)
  /-- The other side broke the rules in a way that concerns all requests under way. -/
  | fault (reason : String)
  /-- Nothing will come any more. -/
  | released
deriving DecidableEq

/-- How far a request has come. -/
inductive Stage where
  /-- It has a number, and nobody knows of it yet. -/
  | fresh
  /-- It is in the table of those that wait for an answer. -/
  | registered
  /-- It stands in line for the writer. -/
  | queued
  /-- It holds the writer. -/
  | writing
  /-- Its frame is written, and it waits for the answer. -/
  | waiting
  | finished (outcome : Except Error Json)
  /-- Its caller has given up. -/
  | abandoned
deriving DecidableEq

/-- A request under way. -/
structure Call where
  request : Request
  stage : Stage
  /-- What has come for the request and is not yet taken. -/
  slot : Option Reply

/-- Who may hold the writer. -/
inductive Writer where
  | call (id : Nat)
  /-- The reader, which refuses a request of the other side. -/
  | reader
  | closing (index : Nat)
deriving DecidableEq, Repr

/-- What the reader does. -/
inductive Reader where
  | reading
  /-- It has a frame to write before it reads on. -/
  | refusing (frame : List UInt8)
  | ended
deriving DecidableEq, Repr

/-- How far a close has come. -/
inductive Closing where
  | waiting
  | done (outcome : Except Error Unit)
deriving DecidableEq

/-- The requests that wait for an answer, unless no more answers can come. -/
structure Table where
  closed : Bool
  waiters : List Nat
deriving DecidableEq, Repr

/-- The state of a connection, and of the two pipes that it is made of. -/
structure Connection where
  /-- All requests ever made, the first one first. -/
  calls : List Call
  table : Table
  /-- Who holds the writer, and the bytes that are left to write. -/
  holder : Option (Writer × List UInt8)
  line : List Writer
  reader : Reader
  closings : List Closing
  /-- The bytes that have arrived and are not read. -/
  inbound : List UInt8
  inboundEnded : Bool
  /-- The bytes that are written and that the other side has not taken. -/
  outbound : List UInt8
  /-- The number of bytes that may be written without being taken. -/
  capacity : Nat
  /-- The bytes that the other side has taken. -/
  delivered : List UInt8
  peerGone : Bool
  /-- The writing side is shut. -/
  shut : Bool

/-- Something that may happen to a connection. -/
inductive Event where
  /-- A request gets its number. -/
  | issue (request : Request)
  | register (id : Nat)
  /-- A request gets in line for the writer. -/
  | queue (id : Nat)
  /-- The first in line takes the writer. -/
  | grant
  /-- The holder of the writer writes at most so many bytes. -/
  | write (count : Nat)
  | failWrite (fault : IoFault)
  /-- A request takes what has come for it. -/
  | finish (id : Nat)
  | abandon (id : Nat)
  | arrive (bytes : List UInt8)
  | endInbound
  /-- The reader takes the next frame, if it is there. -/
  | read
  | failRead
  /-- The other side takes at most so many bytes. -/
  | deliver (count : Nat)
  /-- The other side drops both pipes. -/
  | hangUp
  | close
  /-- The close that is first in line takes the writer, and cannot shut the writing side. -/
  | failShut (fault : IoFault)
  /-- A close has waited for too long. -/
  | giveUp (index : Nat)

namespace Connection

/-- A new connection. -/
def start (capacity : Nat) : Connection where
  calls := []
  table := ⟨false, []⟩
  holder := none
  line := []
  reader := .reading
  closings := []
  inbound := []
  inboundEnded := false
  outbound := []
  capacity := capacity
  delivered := []
  peerGone := false
  shut := false

/-- The time that a close may take, in milliseconds. -/
def closeTime : Nat := 2000

/-- How a request ends when a reply comes. -/
def outcomeOf (request : Request) : Reply → Except Error Json
  -- Nothing is known here of what the compiler printed.
  | .result value => (request.result.ofJson value).mapError .serialization
  | .error e => .error (.remote request.method e.code e.message "")
  | .fault reason => .error (.protocol reason)
  | .released => .error (.connectionClosed "")

/-- The number of the request at a place. -/
def numberAt (id : Nat) : Nat :=
  -- The counter is a machine word, and begins again behind its greatest value.
  id % UInt64.size

/-- The frame of the request at a place. -/
def requestFrame (id : Nat) (request : Request) : List UInt8 :=
  writeFrame (requestPayload (numberAt id) request.method request.params)

/-- The stage of the request at a place, if there is one. -/
def stageOf? (c : Connection) (id : Nat) : Option Stage := c.calls[id]?.map Call.stage

/-- The outcome of a request that is finished. -/
def outcome? (c : Connection) (id : Nat) : Option (Except Error Json) :=
  match c.stageOf? id with
  | some (.finished outcome) => some outcome
  | _ => none

/-- Moves a request to a stage. -/
def moveTo (c : Connection) (id : Nat) (stage : Stage) : Connection :=
  { c with calls := c.calls.modify id fun call => { call with stage } }

/-- Brings a reply to the waiting requests that the test picks, which then wait no more. -/
def bring (c : Connection) (test : Nat → Bool) (reply : Reply) : Connection :=
  -- All others go on as they are.
  { c with
    calls := c.calls.mapIdx fun id call =>
      if c.table.waiters.contains id && test id then { call with slot := some reply } else call
    table := { c.table with waiters := c.table.waiters.filter fun id => !test id } }

/-- Brings a reply to every waiting request, after which none waits. -/
def replyToAll (c : Connection) (reply : Reply) : Connection :=
  -- The table may stay open for later requests.
  c.bring (fun _ => true) reply

/-- Brings a reply to the request of a number, if it waits for one. -/
def replyTo (c : Connection) (number : Nat) (reply : Reply) : Connection :=
  -- Late and unknown replies are dropped.
  c.bring (fun id => numberAt id == number) reply

/-- Closes the table, which releases every waiting request. -/
def closeTable (c : Connection) : Connection :=
  let released := c.replyToAll .released
  { released with table := ⟨true, []⟩ }

/-- Frees the writer. -/
def freeWriter (c : Connection) : Connection := { c with holder := none }

/-- Ends the wish of a writer: it leaves the line, and frees the writer if it holds it. -/
def withdraw (c : Connection) (writer : Writer) : Connection :=
  -- What it has written stays written.
  { c with
    line := c.line.filter (· != writer)
    holder := c.holder.filter fun held => held.1 != writer }

/-- Registers a request, unless the table is closed. -/
def register (c : Connection) (id : Nat) : Connection :=
  -- A request that comes too late never enters the table.
  if c.stageOf? id = some .fresh then
    if c.table.closed then c.moveTo id (.finished (.error (.connectionClosed "")))
    else
      -- An entry of the same number gives way, as it can when the counter has begun again.
      let c := (c.replyTo (numberAt id) .released).moveTo id .registered
      { c with table := { c.table with waiters := c.table.waiters ++ [id] } }
  else c

/-- Puts a registered request in line for the writer. -/
def queue (c : Connection) (id : Nat) : Connection :=
  if c.stageOf? id = some .registered then
    { c.moveTo id .queued with line := c.line ++ [.call id] }
  else c

/-- Gives the writer to the first in line. -/
def grant (c : Connection) : Connection :=
  -- A close needs the writer only for a moment.
  match c.holder, c.line with
  | none, .call id :: line =>
    match c.calls[id]? with
    | some call =>
      { c.moveTo id .writing with
        line, holder := some (.call id, requestFrame id call.request) }
    | none => { c with line }
  | none, .reader :: line =>
    match c.reader with
    | .refusing frame => { c with line, holder := some (.reader, frame) }
    | _ => { c with line }
  | none, .closing index :: line =>
    { c with line, shut := true, closings := c.closings.set index (.done (.ok ())) }
  | _, _ => c

/-- The holder has written all that it had to write. -/
def written (c : Connection) (writer : Writer) : Connection :=
  match writer with
  | .call id => (c.moveTo id .waiting).freeWriter
  | .reader => { c with reader := .reading }.freeWriter
  | .closing _ => c.freeWriter

/-- Writes at most so many bytes, as far as there is room. -/
def write (c : Connection) (count : Nat) : Connection :=
  -- Nothing can be written when nobody takes it.
  match c.holder with
  | none => c
  | some (writer, bytes) =>
    if c.peerGone || c.shut then c
    else
      let n := min count (c.capacity - c.outbound.length)
      let c := { c with
        outbound := c.outbound ++ bytes.take n
        holder := some (writer, bytes.drop n) }
      if (bytes.drop n).isEmpty then c.written writer else c

/-- The writing of the holder fails. -/
def failWrite (c : Connection) (fault : IoFault) : Connection :=
  -- A request that was not written waits for nothing.
  match c.holder with
  | none => c
  | some (.call id, _) =>
    ((c.moveTo id (.finished (.error (.io fault)))).replyTo (numberAt id) .released).freeWriter
  | some (.reader, _) => { c with reader := .reading }.freeWriter
  | some (.closing _, _) => c.freeWriter

/-- A request takes the reply that has come for it. -/
def finish (c : Connection) (id : Nat) : Connection :=
  -- Its frame must be written first.
  match c.calls[id]? with
  | some ⟨request, .waiting, some reply⟩ => c.moveTo id (.finished (outcomeOf request reply))
  | _ => c

/-- The caller of a request gives up. -/
def abandon (c : Connection) (id : Nat) : Connection :=
  -- The table is not told, and a late reply finds nobody.
  match c.stageOf? id with
  | none => c
  | some (.finished _) => c
  | some _ => (c.moveTo id .abandoned).withdraw (.call id)

/-- The id of an answer as a number of a request. -/
def numberOf? : Json → Option Nat
  -- Only integers that are not negative are numbers of requests.
  | .int n => if 0 ≤ n then some n.toNat else none
  | _ => none

/-- The response that a message is, if it is one: the number that it names, and what it says. -/
def responseOf? (m : Message) : Option (Nat × Reply) :=
  -- A response has an id and no method.
  match m.id, m.method with
  | some id, none =>
    (numberOf? id).map fun number =>
      (number, match m.error with
        | some e => .error e
        | none => .result m.result)
  | _, _ => none

/-- What a null id stands for: the other side could not read a request. -/
def rejection (error : Option ErrorObject) : String :=
  match error with
  | some e => s!"compiler rejected a request: {e.message} (code {e.code})"
  | none => "compiler sent a response without a request id"

/-- The reader takes a message. -/
def takeMessage (c : Connection) (m : Message) : Connection :=
  -- What has a method is a request or a notification, and all else is an answer.
  match m.id, m.method with
  | some .null, none => c.replyToAll (.fault (rejection m.error))
  | some id, some method =>
    { c with
      reader := .refusing (writeFrame (refusalPayload id method))
      line := c.line ++ [.reader] }
  | _, _ =>
    match responseOf? m with
    | some (number, reply) => c.replyTo number reply
    | none => c

/-- The reader takes a payload, which is dropped unless it is a message. -/
def takePayload (c : Connection) (payload : List UInt8) : Connection :=
  match Message.ofPayload payload with
  | .ok m => c.takeMessage m
  | .error _ => c

/-- The reader stops, and no answer can come any more. -/
def endReading (c : Connection) : Connection := { c.closeTable with reader := .ended }

/-- The reader takes the next frame, or stops if there can be none. -/
def read (c : Connection) : Connection :=
  -- A malformed frame concerns all requests under way.
  match c.reader with
  | .reading =>
    match readFrame c.inboundEnded c.inbound with
    | .unfinished => c
    | .frame payload rest => { c with inbound := rest }.takePayload payload
    | .ended => c.endReading
    | .faulty fault =>
      if fault.isMalformed then
        (c.replyToAll (.fault s!"malformed frame from compiler: {fault.message}")).endReading
      else c.endReading
  | _ => c

/-- Reading fails for reasons outside the stream. -/
def failRead (c : Connection) : Connection :=
  match c.reader with
  | .reading => c.endReading
  | _ => c

/-- Closes the connection: reading stops, and a close gets in line for the writer. -/
def close (c : Connection) : Connection :=
  -- The reader may be holding the writer.
  let stopped := { c.closeTable.withdraw .reader with reader := .ended }
  { stopped with
    closings := c.closings ++ [.waiting]
    line := stopped.line ++ [.closing c.closings.length] }

/-- The writing side cannot be shut for the close that is first in line. -/
def failShut (c : Connection) (fault : IoFault) : Connection :=
  -- The close ends all the same, and the writer is free again.
  match c.holder, c.line with
  | none, .closing index :: line =>
    { c with line, closings := c.closings.set index (.done (.error (.io fault))) }
  | _, _ => c

/-- A close gives up its wish for the writer. -/
def giveUp (c : Connection) (index : Nat) : Connection :=
  if c.closings[index]? = some .waiting then
    { c.withdraw (.closing index) with
      closings := c.closings.set index (.done (.error (.io (.closeTimeout closeTime)))) }
  else c

/-- The connection after an event, which is nothing new if the event cannot happen. -/
def step (c : Connection) : Event → Connection
  -- Bytes do not arrive behind the end.
  | .issue request => { c with calls := c.calls ++ [⟨request, .fresh, none⟩] }
  | .register id => c.register id
  | .queue id => c.queue id
  | .grant => c.grant
  | .write count => c.write count
  | .failWrite fault => c.failWrite fault
  | .finish id => c.finish id
  | .abandon id => c.abandon id
  | .arrive bytes => if c.inboundEnded then c else { c with inbound := c.inbound ++ bytes }
  | .endInbound => { c with inboundEnded := true }
  | .read => c.read
  | .failRead => c.failRead
  | .deliver count =>
    { c with
      outbound := c.outbound.drop count
      delivered := c.delivered ++ c.outbound.take count }
  | .hangUp => { c with inboundEnded := true, peerGone := true }
  | .close => c.close
  | .failShut fault => c.failShut fault
  | .giveUp index => c.giveUp index

/-- The connection after some events. -/
def run (c : Connection) (events : List Event) : Connection := events.foldl step c

end Connection

end TemplateFacts.Wire
