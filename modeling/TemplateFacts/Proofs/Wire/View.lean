import TemplateFacts.Wire.Connection

/-!
Views of a connection: the stage, the slot and the request at each place, and what the operations
on a connection do to them. What an event can do is said once, with all that it depends on.
-/

namespace TemplateFacts.Wire.Connection

/-- What has come for the request at a place and is not yet taken. -/
def slotOf? (c : Connection) (id : Nat) : Option Reply := c.calls[id]?.bind Call.slot

/-- What the request at a place asks for, if there is one. -/
def requestOf? (c : Connection) (id : Nat) : Option Request := c.calls[id]?.map Call.request

/-- Whatever has a stage is one of the requests ever made. -/
theorem lt_of_stageOf? {c : Connection} {id : Nat} {stage : Stage}
    (found : c.stageOf? id = some stage) : id < c.calls.length := by
  -- A request with a stage is on the list.
  obtain ⟨call, here, _⟩ := Option.map_eq_some_iff.mp found
  exact (List.getElem?_eq_some_iff.mp here).1

section MoveTo

variable (c : Connection) (id : Nat) (stage : Stage)

@[simp] theorem stageOf?_moveTo (other : Nat) :
    (c.moveTo id stage).stageOf? other =
      if id = other then (c.stageOf? other).map fun _ => stage else c.stageOf? other := by
  -- Only the request at the place itself is touched.
  by_cases same : id = other
  · simp [stageOf?, moveTo, same, Function.comp_def]
  · simp [stageOf?, moveTo, same]

@[simp] theorem slotOf?_moveTo (other : Nat) :
    (c.moveTo id stage).slotOf? other = c.slotOf? other := by
  -- A stage says nothing about the slot.
  by_cases same : id = other <;>
    cases found : c.calls[other]? <;>
    simp [slotOf?, moveTo, same, found]

@[simp] theorem requestOf?_moveTo (other : Nat) :
    (c.moveTo id stage).requestOf? other = c.requestOf? other := by
  -- Moving a request changes its stage and not what it asks.
  by_cases same : id = other <;>
    cases found : c.calls[other]? <;>
    simp [requestOf?, moveTo, same, found]

@[simp] theorem length_calls_moveTo : (c.moveTo id stage).calls.length = c.calls.length := by
  simp [moveTo]

@[simp] theorem table_moveTo : (c.moveTo id stage).table = c.table := rfl
@[simp] theorem holder_moveTo : (c.moveTo id stage).holder = c.holder := rfl
@[simp] theorem line_moveTo : (c.moveTo id stage).line = c.line := rfl
@[simp] theorem reader_moveTo : (c.moveTo id stage).reader = c.reader := rfl
@[simp] theorem closings_moveTo : (c.moveTo id stage).closings = c.closings := rfl
@[simp] theorem inbound_moveTo : (c.moveTo id stage).inbound = c.inbound := rfl
@[simp] theorem outbound_moveTo : (c.moveTo id stage).outbound = c.outbound := rfl
@[simp] theorem delivered_moveTo : (c.moveTo id stage).delivered = c.delivered := rfl

end MoveTo

section Bring

variable (c : Connection) (test : Nat → Bool) (reply : Reply)

@[simp] theorem stageOf?_bring (id : Nat) : (c.bring test reply).stageOf? id = c.stageOf? id := by
  -- Whether a reply comes or not, the request stays where it is.
  simp only [stageOf?, bring, List.getElem?_mapIdx, Option.map_map]
  congr 1
  funext call
  simp only [Function.comp_apply]
  split <;> rfl

@[simp] theorem requestOf?_bring (id : Nat) :
    (c.bring test reply).requestOf? id = c.requestOf? id := by
  -- A reply fills a slot and leaves the request as it is.
  simp only [requestOf?, bring, List.getElem?_mapIdx, Option.map_map]
  congr 1
  funext call
  simp only [Function.comp_apply]
  split <;> rfl

theorem slotOf?_bring (id : Nat) :
    (c.bring test reply).slotOf? id =
      if id ∈ c.table.waiters ∧ test id = true ∧ id < c.calls.length then some reply
      else c.slotOf? id := by
  -- The slot is filled exactly where a request waits and is picked.
  by_cases within : id < c.calls.length
  · by_cases picked : id ∈ c.table.waiters ∧ test id = true
    · simp [slotOf?, bring, picked, within]
    · simp only [slotOf?, bring, List.getElem?_mapIdx, List.contains_iff_mem, Bool.and_eq_true,
        if_neg picked]
      simp [← and_assoc, picked]
  · simp [slotOf?, bring, within]

@[simp] theorem length_calls_bring : (c.bring test reply).calls.length = c.calls.length := by
  simp [bring]

@[simp] theorem closed_bring : (c.bring test reply).table.closed = c.table.closed := rfl

@[simp] theorem mem_waiters_bring (id : Nat) :
    id ∈ (c.bring test reply).table.waiters ↔ id ∈ c.table.waiters ∧ test id = false := by
  simp [bring]

@[simp] theorem holder_bring : (c.bring test reply).holder = c.holder := rfl
@[simp] theorem line_bring : (c.bring test reply).line = c.line := rfl
@[simp] theorem reader_bring : (c.bring test reply).reader = c.reader := rfl
@[simp] theorem closings_bring : (c.bring test reply).closings = c.closings := rfl
@[simp] theorem inbound_bring : (c.bring test reply).inbound = c.inbound := rfl
@[simp] theorem outbound_bring : (c.bring test reply).outbound = c.outbound := rfl
@[simp] theorem delivered_bring : (c.bring test reply).delivered = c.delivered := rfl

/-- Where nobody who waits is picked, nothing changes. -/
theorem bring_eq_self (unpicked : ∀ id ∈ c.table.waiters, test id = false) :
    c.bring test reply = c := by
  -- No request is touched, and every entry of the table stays.
  have calls : c.calls.mapIdx (fun id call =>
      if c.table.waiters.contains id && test id then { call with slot := some reply } else call)
        = c.calls := by
    apply List.ext_getElem?
    intro id
    rw [List.getElem?_mapIdx]
    have kept : (c.table.waiters.contains id && test id) = false := by
      by_cases waits : id ∈ c.table.waiters
      · simp [unpicked id waits]
      · simp [waits]
    cases c.calls[id]? with
    | none => rfl
    | some call => simp only [Option.map_some, kept, Bool.false_eq_true, if_false]
  have waiters : c.table.waiters.filter (fun id => !test id) = c.table.waiters := by
    rw [List.filter_eq_self]
    intro id waits
    simp [unpicked id waits]
  simp only [bring, calls, waiters]

end Bring

/-- What the reader does with a payload: nothing, or it brings a reply to some of those who wait, or
it turns to refuse a request of the other side. -/
theorem takePayload_cases (c : Connection) (payload : List UInt8) :
    c.takePayload payload = c ∨ (∃ test reply, c.takePayload payload = c.bring test reply) ∨
      ∃ id method, c.takePayload payload =
        { c with
          reader := .refusing (writeFrame (refusalPayload id method))
          line := c.line ++ [.reader] } := by
  -- One case for each branch: a response, a demand, a rejection, and what is dropped.
  unfold takePayload
  split
  · unfold takeMessage
    split
    · exact .inr (.inl ⟨_, _, rfl⟩)
    · exact .inr (.inr ⟨_, _, rfl⟩)
    · split
      · exact .inr (.inl ⟨_, _, rfl⟩)
      · exact .inl rfl
  · exact .inl rfl

/-- The event may find nothing that it could do. Writes and arrivals are told apart by themselves. -/
def MayIdle : Event → Prop
  | .register _ | .queue _ | .grant | .failWrite _ | .finish _ | .abandon _ | .read | .failRead
  | .failShut _ | .giveUp _ => True
  | .issue _ | .write _ | .arrive _ | .endInbound | .deliver _ | .hangUp | .close => False

/-- What an event does to a connection, with all that it depends on. An event that cannot happen does
nothing. -/
inductive Does (c : Connection) : Event → Connection → Prop where
  | nothing (event : Event) (idles : MayIdle event) : Does c event c
  | issued (request : Request) :
      Does c (.issue request) { c with calls := c.calls ++ [⟨request, .fresh, none⟩] }
  | turnedAway (id : Nat) (fresh : c.stageOf? id = some .fresh) (closed : c.table.closed = true) :
      Does c (.register id) (c.moveTo id (.finished (.error (.connectionClosed ""))))
  | registered (id : Nat) (fresh : c.stageOf? id = some .fresh) (isOpen : c.table.closed = false) :
      Does c (.register id)
        { (c.replyTo (numberAt id) .released).moveTo id .registered with
          table := ⟨c.table.closed, (c.replyTo (numberAt id) .released).table.waiters ++ [id]⟩ }
  | queued (id : Nat) (registered : c.stageOf? id = some .registered) :
      Does c (.queue id) { c.moveTo id .queued with line := c.line ++ [.call id] }
  | granted (id : Nat) (line : List Writer) (call : Call) (free : c.holder = none)
      (first : c.line = .call id :: line) (here : c.calls[id]? = some call) :
      Does c .grant { c.moveTo id .writing with
        line := line, holder := some (.call id, requestFrame id call.request) }
  | grantedReader (line : List Writer) (frame : List UInt8) (free : c.holder = none)
      (first : c.line = .reader :: line) (refusing : c.reader = .refusing frame) :
      Does c .grant { c with line := line, holder := some (.reader, frame) }
  | grantedClosing (index : Nat) (line : List Writer) (free : c.holder = none)
      (first : c.line = .closing index :: line) :
      Does c .grant { c with
        line := line, shut := true, closings := c.closings.set index (.done (.ok ())) }
  /-- The first in line has nothing to write, and leaves the line. -/
  | passedOver (writer : Writer) (line : List Writer) (free : c.holder = none)
      (first : c.line = writer :: line) : Does c .grant { c with line := line }
  | wroteNothing (count : Nat) (idle : c.holder = none ∨ (c.peerGone || c.shut) = true) :
      Does c (.write count) c
  | wrotePart (count : Nat) (writer : Writer) (bytes : List UInt8)
      (held : c.holder = some (writer, bytes)) (taken : (c.peerGone || c.shut) = false)
      (more : bytes.drop (min count (c.capacity - c.outbound.length)) ≠ []) :
      Does c (.write count) { c with
        outbound := c.outbound ++ bytes.take (min count (c.capacity - c.outbound.length))
        holder := some (writer, bytes.drop (min count (c.capacity - c.outbound.length))) }
  | wroteAll (count : Nat) (writer : Writer) (bytes : List UInt8)
      (held : c.holder = some (writer, bytes)) (taken : (c.peerGone || c.shut) = false)
      (all : bytes.take (min count (c.capacity - c.outbound.length)) = bytes) :
      Does c (.write count)
        ({ c with outbound := c.outbound ++ bytes, holder := some (writer, []) }.written writer)
  | failedCall (fault : IoFault) (id : Nat) (left : List UInt8)
      (held : c.holder = some (.call id, left)) :
      Does c (.failWrite fault)
        ((c.moveTo id (.finished (.error (.io fault)))).replyTo (numberAt id) .released).freeWriter
  | failedReader (fault : IoFault) (left : List UInt8) (held : c.holder = some (.reader, left)) :
      Does c (.failWrite fault) { c with reader := .reading }.freeWriter
  | failedClosing (fault : IoFault) (index : Nat) (left : List UInt8)
      (held : c.holder = some (.closing index, left)) : Does c (.failWrite fault) c.freeWriter
  | answered (id : Nat) (request : Request) (reply : Reply)
      (here : c.calls[id]? = some ⟨request, .waiting, some reply⟩) :
      Does c (.finish id) (c.moveTo id (.finished (outcomeOf request reply)))
  | abandoned (id : Nat) (stage : Stage) (here : c.stageOf? id = some stage)
      (unfinished : ∀ outcome, stage ≠ .finished outcome) :
      Does c (.abandon id) ((c.moveTo id .abandoned).withdraw (.call id))
  | arrived (bytes : List UInt8) (goesOn : c.inboundEnded = false) :
      Does c (.arrive bytes) { c with inbound := c.inbound ++ bytes }
  | arrivedLate (bytes : List UInt8) (ended : c.inboundEnded = true) : Does c (.arrive bytes) c
  | inboundEnded : Does c .endInbound { c with inboundEnded := true }
  | took (payload rest : List UInt8) (reading : c.reader = .reading)
      (frame : readFrame c.inboundEnded c.inbound = .frame payload rest) :
      Does c .read ({ c with inbound := rest }.takePayload payload)
  | readToEnd (reading : c.reader = .reading) : Does c .read c.endReading
  | readFault (reason : String) (reading : c.reader = .reading) :
      Does c .read (c.replyToAll (.fault reason)).endReading
  | failedRead (reading : c.reader = .reading) : Does c .failRead c.endReading
  | delivered (count : Nat) :
      Does c (.deliver count) { c with
        outbound := c.outbound.drop count, delivered := c.delivered ++ c.outbound.take count }
  | hungUp : Does c .hangUp { c with inboundEnded := true, peerGone := true }
  | closed : Does c .close c.close
  | failedShut (fault : IoFault) (index : Nat) (line : List Writer) (free : c.holder = none)
      (first : c.line = .closing index :: line) :
      Does c (.failShut fault) { c with
        line := line, closings := c.closings.set index (.done (.error (.io fault))) }
  | gaveUp (index : Nat) (waits : c.closings[index]? = some .waiting) :
      Does c (.giveUp index) { c.withdraw (.closing index) with
        closings := c.closings.set index (.done (.error (.io (.closeTimeout closeTime)))) }

/-- Registering is refused behind a closed table, and else puts the request among those who wait. -/
theorem does_register (c : Connection) (id : Nat) : c.Does (.register id) (c.register id) := by
  -- Only a fresh request registers.
  unfold register
  split
  · rename_i fresh
    split
    · rename_i closed
      exact .turnedAway id fresh closed
    · rename_i isOpen
      exact .registered id fresh (Bool.eq_false_iff.mpr isOpen)
  · exact .nothing _ trivial

/-- A free writer is given to the first in line, or the first in line is passed over. -/
theorem does_grant (c : Connection) : c.Does .grant c.grant := by
  -- One case for each kind of writer that may come first.
  unfold grant
  split
  · rename_i id line free first
    split
    · rename_i call here
      exact .granted id line call free first here
    · exact .passedOver _ line free first
  · rename_i line free first
    split
    · rename_i frame refusing
      exact .grantedReader line frame free first refusing
    · exact .passedOver _ line free first
  · rename_i index line free first
    exact .grantedClosing index line free first
  · exact .nothing _ trivial

/-- A write takes nothing, a part of what is left or all of it. -/
theorem does_write (c : Connection) (count : Nat) : c.Does (.write count) (c.write count) := by
  -- Something is written only while there is a holder and a peer that takes it.
  unfold write
  split
  · rename_i free
    exact .wroteNothing count (.inl free)
  · rename_i writer bytes held
    split
    · rename_i stuck
      exact .wroteNothing count (.inr stuck)
    · rename_i taken
      have taken : (c.peerGone || c.shut) = false := Bool.eq_false_iff.mpr taken
      dsimp only
      split
      · -- All that was left is written, and so nothing of it is dropped.
        rename_i all
        have nothing := List.isEmpty_iff.mp all
        have whole := List.take_append_drop (min count (c.capacity - c.outbound.length)) bytes
        rw [nothing, List.append_nil] at whole
        have does := Does.wroteAll count writer bytes held taken whole
        rwa [nothing, whole]
      · rename_i more
        exact .wrotePart count writer bytes held taken fun nothing => more (List.isEmpty_iff.mpr nothing)

/-- A write that fails takes the writer from its holder. -/
theorem does_failWrite (c : Connection) (fault : IoFault) :
    c.Does (.failWrite fault) (c.failWrite fault) := by
  -- The holder is told in its own way.
  unfold failWrite
  split
  · exact .nothing _ trivial
  · rename_i id left held
    exact .failedCall fault id left held
  · rename_i left held
    exact .failedReader fault left held
  · rename_i index left held
    exact .failedClosing fault index left held

/-- A read takes one frame, waits for the rest of it, or is the last one. -/
theorem does_read (c : Connection) : c.Does .read c.read := by
  -- The reader ends at the end of the bytes and at each fault, and only some faults are told to all.
  unfold read
  split
  · rename_i reading
    split
    · exact .nothing _ trivial
    · rename_i payload rest frame
      exact .took payload rest reading frame
    · exact .readToEnd reading
    · split
      · exact .readFault _ reading
      · exact .readToEnd reading
  · exact .nothing _ trivial

/-- Every event does one of these things. -/
theorem does_step (c : Connection) (event : Event) : c.Does event (c.step event) := by
  -- What an operation tests is what tells its outcomes apart.
  cases event with
  | issue request => exact .issued request
  | register id => exact c.does_register id
  | queue id =>
    simp only [step, queue]
    split
    · rename_i registered
      exact .queued id registered
    · exact .nothing _ trivial
  | grant => exact c.does_grant
  | write count => exact c.does_write count
  | failWrite fault => exact c.does_failWrite fault
  | finish id =>
    simp only [step, finish]
    split
    · rename_i request reply here
      exact .answered id request reply here
    · exact .nothing _ trivial
  | abandon id =>
    simp only [step, abandon]
    split
    · exact .nothing _ trivial
    · exact .nothing _ trivial
    · rename_i stage unfinished here
      exact .abandoned id stage here unfinished
  | arrive bytes =>
    simp only [step]
    split
    · rename_i ended
      exact .arrivedLate bytes ended
    · rename_i goesOn
      exact .arrived bytes (Bool.eq_false_iff.mpr goesOn)
  | endInbound => exact .inboundEnded
  | read => exact c.does_read
  | failRead =>
    simp only [step, failRead]
    split
    · rename_i reading
      exact .failedRead reading
    · exact .nothing _ trivial
  | deliver count => exact .delivered count
  | hangUp => exact .hungUp
  | close => exact .closed
  | failShut fault =>
    simp only [step, failShut]
    split
    · rename_i index line free first
      exact .failedShut fault index line free first
    · exact .nothing _ trivial
  | giveUp index =>
    simp only [step, giveUp]
    split
    · rename_i waits
      exact .gaveUp index waits
    · exact .nothing _ trivial

end TemplateFacts.Wire.Connection
