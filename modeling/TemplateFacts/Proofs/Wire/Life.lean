import TemplateFacts.Proofs.Wire.Order

/-!
The life of a request: which stages it can go through, what can come into its slot, and when it
enters and leaves the table. Each event is described once, for every request at the same time.
-/

namespace TemplateFacts.Wire

namespace Connection

/-- The payload of the frame that the reader takes at an event. -/
def taken? (c : Connection) : Event → Option (List UInt8)
  | .read =>
    match c.reader, readFrame c.inboundEnded c.inbound with
    | .reading, .frame payload _ => some payload
    | _, _ => none
  | _ => none

/-- The message that the reader takes at an event. -/
def message? (c : Connection) (event : Event) : Option Message :=
  (c.taken? event).bind fun payload => (Message.ofPayload payload).toOption

/-- The response that the reader takes at an event. -/
def response? (c : Connection) (event : Event) : Option (Nat × Reply) :=
  (c.message? event).bind responseOf?

/-- What a message brings, and to which of the waiting requests. -/
def broughtBy (m : Message) : (Nat → Bool) × Reply :=
  match m.id, m.method with
  | some .null, none => (fun _ => true, .fault (rejection m.error))
  | _, _ =>
    match responseOf? m with
    | some (number, reply) => (fun id => numberAt id == number, reply)
    | none => (fun _ => false, .released)

/-- What an event brings, and to which of the waiting requests. -/
def brought (c : Connection) : Event → (Nat → Bool) × Reply
  | .register id =>
    if c.stageOf? id = some .fresh ∧ c.table.closed = false then
      (fun other => numberAt other == numberAt id, .released)
    else (fun _ => false, .released)
  | .failWrite _ =>
    match c.writer? with
    | some (.call id) => (fun other => numberAt other == numberAt id, .released)
    | _ => (fun _ => false, .released)
  | .read =>
    match c.reader, readFrame c.inboundEnded c.inbound with
    | .reading, .frame payload _ =>
      match Message.ofPayload payload with
      | .ok m => broughtBy m
      | .error _ => (fun _ => false, .released)
    | .reading, .ended => (fun _ => true, .released)
    | .reading, .faulty fault =>
      (fun _ => true,
        if fault.isMalformed then .fault s!"malformed frame from compiler: {fault.message}"
        else .released)
    | _, _ => (fun _ => false, .released)
  | .failRead =>
    match c.reader with
    | .reading => (fun _ => true, .released)
    | _ => (fun _ => false, .released)
  | .close => (fun _ => true, .released)
  | _ => (fun _ => false, .released)

/-- The event enters the request at a place in the table. -/
def Enters (c : Connection) (event : Event) (id : Nat) : Prop :=
  event = .register id ∧ c.stageOf? id = some .fresh ∧ c.table.closed = false

/-- The stage that the request at a place may go to from its stage at an event, and what for. -/
inductive Goes (c : Connection) : Event → Nat → Stage → Stage → Prop where
  | stays (event : Event) (id : Nat) (stage : Stage) : Goes c event id stage stage
  | registered (id : Nat) (isOpen : c.table.closed = false) :
      Goes c (.register id) id .fresh .registered
  | refused (id : Nat) (closed : c.table.closed = true) :
      Goes c (.register id) id .fresh (.finished (.error (.connectionClosed "")))
  | queued (id : Nat) : Goes c (.queue id) id .registered .queued
  | granted (id : Nat) : Goes c .grant id .queued .writing
  | written (count id : Nat) : Goes c (.write count) id .writing .waiting
  | failed (fault : IoFault) (id : Nat) (holds : c.writer? = some (.call id)) :
      Goes c (.failWrite fault) id .writing (.finished (.error (.io fault)))
  | answered (id : Nat) (request : Request) (reply : Reply)
      (asks : c.requestOf? id = some request) (has : c.slotOf? id = some reply) :
      Goes c (.finish id) id .waiting (.finished (outcomeOf request reply))
  | abandoned (id : Nat) (stage : Stage) (unfinished : ∀ outcome, stage ≠ .finished outcome) :
      Goes c (.abandon id) id stage .abandoned

variable {c : Connection}

/-- Two connections agree on what has come for whom, and on who waits. -/
def Agree (c d : Connection) : Prop :=
  (∀ id, c.slotOf? id = d.slotOf? id) ∧ c.table.waiters = d.table.waiters

theorem Agree.trans {c d e : Connection} (first : Agree c d) (second : Agree d e) : Agree c e :=
  ⟨fun id => (first.1 id).trans (second.1 id), first.2.trans second.2⟩

/-- Moving a request brings nothing. -/
theorem agree_moveTo (c : Connection) (id : Nat) (stage : Stage) : Agree (c.moveTo id stage) c :=
  ⟨fun other => slotOf?_moveTo c id stage other, rfl⟩

/-- Picking nobody brings nothing. -/
theorem agree_bring_nobody (c : Connection) (reply : Reply) :
    Agree c (c.bring (fun _ => false) reply) := by
  -- What is brought to nobody changes nothing.
  rw [bring_eq_self c _ reply (fun _ _ => rfl)]
  exact ⟨fun _ => rfl, rfl⟩

/-- A message brings what it says, and nothing else. -/
theorem agree_takeMessage (c : Connection) (m : Message) :
    Agree (c.takeMessage m) (c.bring (broughtBy m).1 (broughtBy m).2) := by
  -- Without an answer nobody is picked.
  obtain ⟨id, method, result, error⟩ := m
  cases id with
  | none => exact agree_bring_nobody c .released
  | some id =>
    cases method with
    | some method => cases id <;> exact agree_bring_nobody c .released
    | none =>
      cases id with
      | int n =>
        simp only [takeMessage, broughtBy, responseOf?]
        cases numberOf? (.int n) with
        | none => exact agree_bring_nobody c .released
        | some number => exact ⟨fun _ => rfl, rfl⟩
      | null => exact ⟨fun _ => rfl, rfl⟩
      | _ => exact agree_bring_nobody c .released

/-- Ending brings a release to all. -/
theorem agree_endReading (c : Connection) :
    Agree c.endReading (c.bring (fun _ => true) .released) :=
  ⟨fun _ => rfl, by simp [endReading, closeTable, bring]⟩

theorem agree_read (c : Connection) :
    Agree c.read (c.bring (c.brought .read).1 (c.brought .read).2) := by
  -- The reader takes a frame, ends, or waits.
  unfold read
  split
  · rename_i reading
    split
    · -- The frame is not whole yet.
      rename_i waiting
      rw [show c.brought .read = (fun _ => false, .released) by simp only [brought, reading, waiting]]
      exact agree_bring_nobody c .released
    · rename_i payload rest taken
      unfold takePayload
      split
      · -- A message brings what it says to those it names.
        rename_i m said
        rw [show c.brought .read = broughtBy m by simp only [brought, reading, taken, said]]
        exact agree_takeMessage { c with inbound := rest } m
      · rename_i unsaid
        rw [show c.brought .read = (fun _ => false, .released) by
          simp only [brought, reading, taken, unsaid]]
        exact agree_bring_nobody c .released
    · -- The end releases everybody who still waits.
      rename_i ended
      rw [show c.brought .read = (fun _ => true, .released) by simp only [brought, reading, ended]]
      exact agree_endReading c
    · rename_i fault faulty
      split
      · -- Those who get the fault wait for no release any more.
        rename_i malformed
        rw [show c.brought .read = (fun _ => true,
            .fault s!"malformed frame from compiler: {fault.message}") by
          simp only [brought, reading, faulty, malformed, if_true]]
        refine ⟨fun id => ?_, by simp [endReading, closeTable, replyToAll, bring]⟩
        rw [(agree_endReading _).1, slotOf?_bring]
        simp [replyToAll]
      · -- A stream that breaks off is no malformed frame: the fault is told to nobody.
        rename_i cut
        rw [show c.brought .read = (fun _ => true, .released) by
          simp only [brought, reading, faulty, cut, Bool.false_eq_true, if_false]]
        exact agree_endReading c
  · -- A reader that has something to send back, or has ended, takes nothing.
    rename_i busy
    rw [show c.brought .read = (fun _ => false, .released) by
      cases other : c.reader with
      | reading => exact absurd other busy
      | refusing _ => simp only [brought, other]
      | ended => simp only [brought, other]]
    exact agree_bring_nobody c .released

theorem agree_failWrite (c : Connection) (fault : IoFault) :
    Agree (c.failWrite fault)
      (c.bring (c.brought (.failWrite fault)).1 (c.brought (.failWrite fault)).2) := by
  -- Only the request that holds the writer is concerned, with all of its number.
  unfold failWrite brought writer?
  cases c.holder with
  | none => exact agree_bring_nobody c .released
  | some held =>
    obtain ⟨writer, bytes⟩ := held
    cases writer with
    | call id =>
      refine ⟨fun other => ?_, rfl⟩
      show Connection.slotOf? ((c.moveTo id _).bring _ _) other = _
      simp [slotOf?_bring]
    | reader => exact agree_bring_nobody c .released
    | closing _ => exact agree_bring_nobody c .released

theorem agree_grant (c : Connection) : Agree c.grant c := by
  -- Only a request at the head of the line changes its stage, and nobody leaves the table.
  unfold grant
  split
  · split
    · exact agree_moveTo c _ _
    · exact ⟨fun _ => rfl, rfl⟩
  · split <;> exact ⟨fun _ => rfl, rfl⟩
  · exact ⟨fun _ => rfl, rfl⟩
  · exact ⟨fun _ => rfl, rfl⟩

theorem agree_write (c : Connection) (count : Nat) : Agree (c.write count) c := by
  unfold write
  -- Writing moves a request at most, and brings nothing to anybody.
  split
  · exact ⟨fun _ => rfl, rfl⟩
  · rename_i writer bytes _
    split
    · exact ⟨fun _ => rfl, rfl⟩
    · simp only
      split
      · cases writer with
        | call id => exact agree_moveTo { c with outbound := _, holder := _ } id .waiting
        | reader => exact ⟨fun _ => rfl, rfl⟩
        | closing _ => exact ⟨fun _ => rfl, rfl⟩
      · exact ⟨fun _ => rfl, rfl⟩

/-- Slots and table change at an event by what it brings, unless a request is registered. -/
theorem agree_step (c : Connection) (event : Event) (others : ∀ id, event ≠ .register id) :
    Agree (c.step event) (c.bring (c.brought event).1 (c.brought event).2) := by
  cases event with
  | issue request =>
    refine Agree.trans (d := c) ⟨fun id => ?_, rfl⟩ (agree_bring_nobody c .released)
    -- The slot of a new request is as empty as one that is not there.
    simp only [slotOf?, step, List.getElem?_append]
    split
    · rfl
    · rename_i beyond
      rw [List.getElem?_eq_none (Nat.not_lt.mp beyond)]
      cases id - c.calls.length <;> simp
  | register id => exact absurd rfl (others id)
  | queue id =>
    refine Agree.trans ?_ (agree_bring_nobody c .released)
    simp only [step, queue]
    split
    · exact agree_moveTo c id .queued
    · exact ⟨fun _ => rfl, rfl⟩
  -- Nothing is brought by those who write.
  | grant => exact (agree_grant c).trans (agree_bring_nobody c .released)
  | write count => exact (agree_write c count).trans (agree_bring_nobody c .released)
  | failWrite fault => exact agree_failWrite c fault
  | finish id =>
    refine Agree.trans ?_ (agree_bring_nobody c .released)
    simp only [step, finish]
    split
    · exact agree_moveTo c id _
    · exact ⟨fun _ => rfl, rfl⟩
  | abandon id =>
    refine Agree.trans ?_ (agree_bring_nobody c .released)
    simp only [step, abandon]
    split
    · exact ⟨fun _ => rfl, rfl⟩
    · exact ⟨fun _ => rfl, rfl⟩
    · exact agree_moveTo c id .abandoned
  | arrive bytes =>
    refine Agree.trans ?_ (agree_bring_nobody c .released)
    simp only [step]
    split <;> exact ⟨fun _ => rfl, rfl⟩
  | endInbound => exact agree_bring_nobody c .released
  | read => exact agree_read c
  | failRead =>
    simp only [step, failRead, brought]
    cases c.reader with
    | reading => exact agree_endReading c
    | refusing _ => exact agree_bring_nobody c .released
    | ended => exact agree_bring_nobody c .released
  | deliver count => exact agree_bring_nobody c .released
  | hangUp => exact agree_bring_nobody c .released
  | close => exact agree_endReading c
  | failShut fault =>
    refine Agree.trans ?_ (agree_bring_nobody c .released)
    simp only [step, failShut]
    split <;> exact ⟨fun _ => rfl, rfl⟩
  | giveUp index =>
    refine Agree.trans ?_ (agree_bring_nobody c .released)
    simp only [step, giveUp]
    split <;> exact ⟨fun _ => rfl, rfl⟩

/-- A request that is registered drives out whoever has its number, and enters the table. -/
theorem agree_register (c : Connection) (id : Nat) :
    (∀ other, (c.register id).slotOf? other =
        (c.bring (c.brought (.register id)).1 (c.brought (.register id)).2).slotOf? other) ∧
      ∀ other, other ∈ (c.register id).table.waiters ↔
        other ∈ (c.bring (c.brought (.register id)).1 (c.brought (.register id)).2).table.waiters ∨
          c.Enters (.register id) other := by
  unfold register brought Enters
  -- By what happens: it enters an open table, is turned away by a closed one, or is not new.
  by_cases fresh : c.stageOf? id = some .fresh
  · cases closed : c.table.closed with
    | true =>
      simp only [fresh, if_true, Bool.true_eq_false, and_false, if_false]
      -- It is turned away, and waits for nothing.
      exact ⟨fun other => by simp [slotOf?_bring], fun other => by simp⟩
    | false =>
      simp only [fresh, if_true, Bool.false_eq_true, if_false, and_self]
      -- What it had is taken out of its slot, and from now on it waits.
      refine ⟨fun other => slotOf?_moveTo .., fun other => ?_⟩
      simp only [replyTo, table_moveTo, List.mem_append, mem_waiters_bring, List.mem_singleton,
        Event.register.injEq]
      constructor
      · rintro (kept | rfl)
        · exact .inl kept
        · exact .inr ⟨rfl, fresh, trivial⟩
      · rintro (kept | ⟨rfl, _⟩)
        · exact .inl kept
        · exact .inr rfl
  · simp only [fresh, if_false, false_and]
    refine ⟨fun other => by simp [slotOf?_bring], fun other => ?_⟩
    simp only [mem_waiters_bring, and_true, Event.register.injEq, iff_self_or, and_imp]
    rintro rfl isFresh
    exact absurd isFresh fresh

/-- A request that enters the table is a registered one. -/
theorem stageOf?_of_enters {event : Event} {id : Nat} (enters : c.Enters event id) :
    (c.step event).stageOf? id = some .registered := by
  -- The place with its number is taken from whoever had it, and then it is its own.
  obtain ⟨rfl, fresh, isOpen⟩ := enters
  simp only [step, register, fresh, if_true, isOpen, Bool.false_eq_true, if_false]
  show ((c.replyTo (numberAt id) .released).moveTo id .registered).stageOf? id = _
  simp [replyTo, fresh]

/-- What comes into a slot is what an event brings. -/
theorem slotOf?_step (c : Connection) (event : Event) (id : Nat) :
    (c.step event).slotOf? id = (c.bring (c.brought event).1 (c.brought event).2).slotOf? id := by
  -- A registration gives no slot; all other events leave slots to what they bring.
  by_cases registers : ∃ id, event = .register id
  · obtain ⟨registered, rfl⟩ := registers
    exact (agree_register c registered).1 id
  · exact (agree_step c event fun id same => registers ⟨id, same⟩).1 id

/-- Who waits has waited before and was not picked, or is entered now. -/
theorem mem_waiters_step (c : Connection) (event : Event) (id : Nat) :
    id ∈ (c.step event).table.waiters ↔
      (id ∈ c.table.waiters ∧ (c.brought event).1 id = false) ∨ c.Enters event id := by
  -- Who is in the table was there and was not served, or has just been registered.
  rw [← mem_waiters_bring c (c.brought event).1 (c.brought event).2]
  by_cases registers : ∃ id, event = .register id
  · obtain ⟨registered, rfl⟩ := registers
    exact (agree_register c registered).2 id
  · rw [(agree_step c event fun id same => registers ⟨id, same⟩).2]
    refine (or_iff_left ?_).symm
    rintro ⟨rfl, _⟩
    exact registers ⟨id, rfl⟩

/-- A request that moves alone goes where the event takes it. -/
theorem goes_moveTo {event : Event} {id other : Nat} {old new stage : Stage}
    (here : c.stageOf? id = some old) (goes : c.Goes event id old new)
    (found : c.stageOf? other = some stage) :
    ∃ stage', (c.moveTo id new).stageOf? other = some stage' ∧ c.Goes event other stage stage' := by
  -- The call that is moved goes as is given, and every other one stays.
  by_cases same : id = other
  · subst same
    rw [found, Option.some.injEq] at here
    exact ⟨new, by simp [found], here ▸ goes⟩
  · exact ⟨stage, by simp [same, found], .stays event other stage⟩

/-- The request that holds the writer is one that writes. -/
theorem Orderly.stageOf?_holder (o : Orderly c) {id : Nat} {bytes : List UInt8}
    (holds : c.holder = some (.call id, bytes)) : c.stageOf? id = some .writing :=
  (o.writing id).mp (by simp [writer?, holds])

/-- The first request in line is one that is queued. -/
theorem Orderly.stageOf?_first (o : Orderly c) {id : Nat} {line : List Writer}
    (first : c.line = .call id :: line) : c.stageOf? id = some .queued :=
  (o.queued id).mp (by simp [first])

/-- The reader moves no request. -/
theorem stageOf?_takePayload (c : Connection) (payload : List UInt8) (id : Nat) :
    (c.takePayload payload).stageOf? id = c.stageOf? id := by
  -- What is read concerns slots, the table and refusals, but no stage.
  rcases c.takePayload_cases payload with same | ⟨test, reply, same⟩ | ⟨id, method, same⟩
  · rw [same]
  · rw [same, stageOf?_bring]
  · rw [same]
    rfl

/-- Reading moves no request. -/
theorem stageOf?_read (c : Connection) (id : Nat) :
    (c.step .read).stageOf? id = c.stageOf? id := by
  -- By what reading may do.
  have does := does_step c .read
  generalize c.step .read = d at does
  cases does with
  | nothing => rfl
  | took payload rest => exact stageOf?_takePayload { c with inbound := rest } payload id
  | readToEnd => exact stageOf?_bring ..
  | readFault => exact (stageOf?_bring ..).trans (stageOf?_bring ..)

/-- Every request goes at every event where its stage allows. -/
theorem goes_step (o : Orderly c) (event : Event) {id : Nat} {stage : Stage}
    (found : c.stageOf? id = some stage) :
    ∃ stage', (c.step event).stageOf? id = some stage' ∧ c.Goes event id stage stage' := by
  -- By cases on what the event does, which moves at most one request.
  have does := does_step c event
  generalize c.step event = d at does
  have stays (same : d.stageOf? id = c.stageOf? id) :
      ∃ stage', d.stageOf? id = some stage' ∧ c.Goes event id stage stage' :=
    ⟨stage, same.trans found, .stays event id stage⟩
  cases does with
  | issued request =>
    -- The request stands among those that were there before.
    refine stays ?_
    simp only [stageOf?]
    rw [List.getElem?_append_left (lt_of_stageOf? found)]
  | turnedAway other fresh closed => exact goes_moveTo fresh (.refused other closed) found
  | registered other fresh isOpen =>
    -- It moves, and what is brought to it changes no stage.
    obtain ⟨stage', moved, goes⟩ := goes_moveTo fresh (.registered other isOpen) found
    rw [stageOf?_moveTo] at moved
    exact ⟨stage', (stageOf?_moveTo ..).trans (by rw [replyTo, stageOf?_bring, moved]), goes⟩
  | queued other registered => exact goes_moveTo registered (.queued other) found
  | granted other line call free first =>
    exact goes_moveTo (o.stageOf?_first first) (.granted other) found
  | wroteAll count writer bytes held =>
    cases writer with
    -- The request whose frame is written now waits for its answer.
    | call other => exact goes_moveTo (o.stageOf?_holder held) (.written count other) found
    | reader => exact stays rfl
    | closing index => exact stays rfl
  | failedCall fault other left held =>
    -- The request that could not be written ends, and is taken off the table as well.
    obtain ⟨stage', moved, goes⟩ := goes_moveTo (o.stageOf?_holder held)
      (.failed fault other (by simp [writer?, held])) found
    exact ⟨stage', (stageOf?_bring ..).trans moved, goes⟩
  | answered other request reply here =>
    have waiting : c.stageOf? other = some .waiting := by simp [stageOf?, here]
    exact goes_moveTo waiting (.answered other request reply (by simp [requestOf?, here])
      (by simp [slotOf?, here])) found
  | abandoned other old here unfinished =>
    exact goes_moveTo here (.abandoned other old unfinished) found
  | took payload rest => exact stays (stageOf?_takePayload { c with inbound := rest } payload id)
  | readToEnd => exact stays (stageOf?_bring ..)
  | readFault => exact stays ((stageOf?_bring ..).trans (stageOf?_bring ..))
  | failedRead => exact stays (stageOf?_bring ..)
  | closed => exact stays (stageOf?_bring ..)
  | _ => exact stays rfl

namespace Goes

variable {event : Event} {id : Nat} {after : Stage}

/-- What is finished stays so. -/
theorem ofFinished {outcome : Except Error Json} (goes : c.Goes event id (.finished outcome) after) :
    after = .finished outcome := by
  -- A finished call is neither abandoned nor moved on.
  cases goes with
  | stays => rfl
  | abandoned _ _ unfinished => exact absurd rfl (unfinished outcome)

end Goes

/-- A request that is finished stays so in every run. -/
theorem finished_run (o : Orderly c) {id : Nat} {outcome : Except Error Json}
    (found : c.stageOf? id = some (.finished outcome)) (events : List Event) :
    (c.run events).stageOf? id = some (.finished outcome) := by
  -- By induction on the events, no one of which moves a finished call on.
  induction events generalizing c with
  | nil => exact found
  | cons event events ih =>
    obtain ⟨after, here, goes⟩ := goes_step o event found
    rw [goes.ofFinished] at here
    exact ih (o.step event) here

/-- What all requests ever made ask for. -/
def requests (c : Connection) : List Request := c.calls.map Call.request

/-- What an event asks for, if it makes a request. -/
def asked : Event → List Request
  | .issue request => [request]
  | _ => []

theorem requests_moveTo (c : Connection) (id : Nat) (stage : Stage) :
    (c.moveTo id stage).requests = c.requests := by
  -- A call keeps its request at every stage.
  apply List.ext_getElem?
  intro other
  simpa [requests, requestOf?] using requestOf?_moveTo c id stage other

theorem requests_bring (c : Connection) (test : Nat → Bool) (reply : Reply) :
    (c.bring test reply).requests = c.requests := by
  -- A call keeps its request with every slot.
  apply List.ext_getElem?
  intro id
  simpa [requests, requestOf?] using requestOf?_bring c test reply id

theorem requests_takePayload (c : Connection) (payload : List UInt8) :
    (c.takePayload payload).requests = c.requests := by
  -- What is read is brought to slots or refused, and asks for nothing.
  rcases c.takePayload_cases payload with same | ⟨test, reply, same⟩ | ⟨id, method, same⟩
  · rw [same]
  · rw [same]
    exact requests_bring c test reply
  · rw [same]
    rfl

/-- Requests are only ever added, and keep what they ask for. -/
theorem requests_step (c : Connection) (event : Event) :
    (c.step event).requests = c.requests ++ asked event := by
  -- Only a new request is asked for; all else moves requests, or brings something to them.
  have does := does_step c event
  generalize c.step event = d at does
  have kept (same : d.requests = c.requests) : d.requests = c.requests ++ [] := by
    rw [same, List.append_nil]
  cases does with
  | issued request => simp [requests, asked]
  | nothing event idles =>
    -- An event that does nothing asks for nothing.
    cases event with
    | issue => exact idles.elim
    | _ => exact kept rfl
  | turnedAway => exact kept (requests_moveTo ..)
  | registered => exact kept ((requests_moveTo ..).trans (requests_bring ..))
  | queued => exact kept (requests_moveTo ..)
  | granted => exact kept (requests_moveTo ..)
  | wroteAll count writer bytes =>
    cases writer with
    | call id => exact kept (requests_moveTo { c with outbound := _, holder := _ } id .waiting)
    | reader => exact kept rfl
    | closing index => exact kept rfl
  | failedCall => exact kept ((requests_bring ..).trans (requests_moveTo ..))
  | answered => exact kept (requests_moveTo ..)
  | abandoned => exact kept (requests_moveTo ..)
  | took payload rest => exact kept (requests_takePayload { c with inbound := rest } payload)
  | readToEnd => exact kept (requests_bring ..)
  | readFault => exact kept ((requests_bring ..).trans (requests_bring ..))
  | failedRead => exact kept (requests_bring ..)
  | closed => exact kept (requests_bring ..)
  | _ => exact kept rfl

/-- What a request asks for never changes. -/
theorem requestOf?_step {event : Event} {id : Nat} {request : Request}
    (asks : c.requestOf? id = some request) : (c.step event).requestOf? id = some request := by
  -- New calls are added behind, so that a call is found where it was.
  have listed : c.requests[id]? = some request := by simpa [requests, requestOf?] using asks
  have still : (c.step event).requests[id]? = some request := by
    rw [requests_step, List.getElem?_append_left, listed]
    exact (List.getElem?_eq_some_iff.mp listed).1
  simpa [requests, requestOf?] using still

/-- What a request asks for stays the same in every run. -/
theorem requestOf?_run {id : Nat} {request : Request} (asks : c.requestOf? id = some request)
    (events : List Event) : (c.run events).requestOf? id = some request := by
  -- By induction on the events.
  induction events generalizing c with
  | nil => exact asks
  | cons event events ih => exact ih (requestOf?_step asks)

/-- A request that is new at an event is fresh. -/
theorem fresh_of_new {event : Event} {id : Nat} {stage : Stage} (new : c.stageOf? id = none)
    (found : (c.step event).stageOf? id = some stage) : stage = .fresh := by
  -- Only the event that makes it can add a request, and adds it fresh.
  have beyond : c.requests.length ≤ id := by
    simpa [stageOf?, requests] using new
  have within : id < (c.step event).requests.length := by
    rw [requests, List.length_map]
    exact lt_of_stageOf? found
  rw [requests_step] at within
  cases event with
  | issue request =>
    have place : id = c.calls.length := by
      simp only [asked, List.length_append, List.length_singleton, requests, List.length_map]
        at within beyond
      omega
    subst place
    simpa [stageOf?, step, eq_comm] using found
  | _ => simp only [asked, List.append_nil] at within; omega

/-- What a request is at after an event, it has come to at the event, unless it is new. -/
theorem came_step (o : Orderly c) {event : Event} {id : Nat} {stage : Stage}
    (found : (c.step event).stageOf? id = some stage) :
    (c.stageOf? id = none ∧ stage = .fresh) ∨
      ∃ old, c.stageOf? id = some old ∧ c.Goes event id old stage := by
  -- A call that was there has gone on as the event allows, and a new one is fresh.
  cases before : c.stageOf? id with
  | none => exact .inl ⟨rfl, fresh_of_new before found⟩
  | some old =>
    obtain ⟨after, found', goes⟩ := goes_step o event before
    obtain rfl : after = stage := Option.some.inj (found'.symm.trans found)
    exact .inr ⟨old, rfl, goes⟩

/-- All requests of a run are those that its events make. -/
theorem requests_run (c : Connection) (events : List Event) :
    (c.run events).requests = c.requests ++ events.flatMap asked := by
  -- By induction on the events, each of which adds what is asked by it.
  induction events generalizing c with
  | nil => simp [run]
  | cons event events ih =>
    rw [List.flatMap_cons, ← List.append_assoc, ← requests_step]
    exact ih (c.step event)

/-- A run may be cut anywhere. -/
theorem run_append (c : Connection) (first second : List Event) :
    c.run (first ++ second) = (c.run first).run second := List.foldl_append

/-- The last event of a run is one step more. -/
theorem run_concat (c : Connection) (events : List Event) (event : Event) :
    c.run (events ++ [event]) = (c.run events).step event := run_append c events [event]

/-- Requests are never taken away. -/
theorem length_le_run (c : Connection) (events : List Event) :
    c.calls.length ≤ (c.run events).calls.length := by
  -- Calls are as many as their requests, and none of these is dropped.
  have counted := congrArg List.length (requests_run c events)
  simp only [requests, List.length_map, List.length_append] at counted
  omega

end Connection

end TemplateFacts.Wire
