import TemplateFacts.Wire.Connection

/-!
A connection together with its other side, run until nothing can make progress.

The other side either takes all bytes at once or takes none. Time passes only when all is at rest,
so a close that has to wait then gives up.
-/

namespace TemplateFacts.Wire

namespace Connection

/-- The first event by which a request can move on, the first request having the given number. -/
def callEvent? (id : Nat) : List Call → Option Event
  -- A request at rest waits for the writer or for an answer.
  | [] => none
  | call :: calls =>
    match call.stage, call.slot with
    | .fresh, _ => some (.register id)
    | .registered, _ => some (.queue id)
    | .waiting, some _ => some (.finish id)
    | _, _ => callEvent? (id + 1) calls

/-- The event by which the writer can move on. -/
def writerEvent? (c : Connection) : Option Event :=
  -- Writing fails when nobody takes the bytes any more.
  match c.holder with
  | none => if c.line.isEmpty then none else some .grant
  | some (_, bytes) =>
    if c.peerGone || c.shut then some (.failWrite .peerGone)
    else if c.outbound.length < c.capacity || bytes.isEmpty then some (.write bytes.length)
    else none

/-- The event by which the reader can move on. -/
def readerEvent? (c : Connection) : Option Event :=
  match c.reader with
  | .reading => if readFrame c.inboundEnded c.inbound = .unfinished then none else some .read
  | _ => none

/-- The next event of a connection that is left to itself. -/
def next? (peerTakes : Bool) (c : Connection) : Option Event :=
  -- Nothing is written or read before all requests have moved.
  callEvent? 0 c.calls <|> c.writerEvent? <|>
    (if peerTakes && !c.peerGone && !c.outbound.isEmpty then some (.deliver c.outbound.length)
      else none) <|>
    c.readerEvent?

/-- The number of bytes that a request may still write. -/
def callWork (id : Nat) : List Call → Nat
  -- A request that waits for its answer has written all of them.
  | [] => 0
  | call :: calls =>
    let rest := callWork (id + 1) calls + 1
    match call.stage with
    | .finished _ => rest
    | .abandoned => rest
    | .waiting => rest
    | _ => rest + (requestFrame id call.request).length

/-- A bound on the number of events before a connection comes to rest. -/
def work (c : Connection) : Nat :=
  -- A refusal is at most so many times as long as the request that it refuses.
  let held := match c.holder with
    | some (_, bytes) => bytes.length
    | none => 0
  let refusing := match c.reader with
    | .refusing frame => frame.length
    | _ => 0
  64 * (callWork 0 c.calls + c.inbound.length + c.outbound.length + c.line.length + held
    + refusing + 1)

/-- Lets a connection go on for at most so many events. -/
def settleFor (peerTakes : Bool) : (fuel : Nat) → Connection → Connection
  -- A connection at rest stays as it is.
  | 0, c => c
  | fuel + 1, c =>
    match c.next? peerTakes with
    | some event => settleFor peerTakes fuel (c.step event)
    | none => c

/-- Lets a connection go on until it is at rest. -/
def settle (peerTakes : Bool) (c : Connection) : Connection := settleFor peerTakes c.work c

end Connection

/-- A connection and what its other side knows. -/
structure Exchange where
  connection : Connection
  /-- The other side takes what is written. -/
  peerTakes : Bool
  /-- The other side has seen the end of what is written. -/
  sawEnd : Bool
  /-- The end has been reported. -/
  toldEnd : Bool

/-- What the other side receives. -/
inductive Received where
  | message (j : Json)
  | ended
  | nothing

namespace Exchange

/-- A new connection at rest. -/
def start (capacity : Nat) (peerTakes : Bool) : Exchange :=
  ⟨.start capacity, peerTakes, false, false⟩

/-- Lets the connection come to rest after an event. -/
def after (x : Exchange) (event : Event) : Exchange :=
  -- The end is seen when all bytes before it are taken.
  let c := (x.connection.step event).settle x.peerTakes
  let atEnd := c.shut && c.outbound.isEmpty && x.peerTakes && !c.peerGone
  { x with connection := c, sawEnd := x.sawEnd || atEnd }

/-- Makes a request, and gives its number. -/
def request (x : Exchange) (r : Request) : Exchange × Nat :=
  (x.after (.issue r), x.connection.calls.length)

/-- The outcome of a request that is finished. -/
def outcome? (x : Exchange) (id : Nat) : Option (Except Error Json) := x.connection.outcome? id

/-- The other side sends bytes, unless it is gone. -/
def send (x : Exchange) (bytes : List UInt8) : Exchange × Bool :=
  if x.connection.peerGone then (x, false) else (x.after (.arrive bytes), true)

/-- The other side takes up the next message that it was sent. -/
def receive (x : Exchange) : Exchange × Received :=
  -- The end is reported once.
  match readFrame x.sawEnd x.connection.delivered with
  | .frame payload rest =>
    let x := { x with connection := { x.connection with delivered := rest } }
    (x, match Json.ofBytes payload with
      | .ok j => .message j
      | .error _ => .nothing)
  | .ended => if x.toldEnd then (x, .nothing) else ({ x with toldEnd := true }, .ended)
  | _ => (x, .nothing)

/-- Closes the connection, and gives up if it cannot come to rest closed. -/
def close (x : Exchange) : Exchange × Except Error Unit :=
  let index := x.connection.closings.length
  let x := x.after .close
  match x.connection.closings[index]? with
  | some (.done outcome) => (x, outcome)
  | _ => (x.after (.giveUp index), .error (.io (.closeTimeout Connection.closeTime)))

end Exchange

end TemplateFacts.Wire
