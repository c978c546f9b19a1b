import TemplateFacts.Proofs.Wire.Progress

/-!
Connections at rest: when a connection does nothing more by itself, all that was to be written has
been taken, and every request that the other side has answered is finished.
-/

namespace TemplateFacts.Wire.Connection

variable {c : Connection} {event : Event}

/-- The room for bytes under way never changes. -/
theorem capacity_takePayload (c : Connection) (payload : List UInt8) :
    (c.takePayload payload).capacity = c.capacity := by
  -- Taking a payload fills slots or queues a refusal.
  rcases c.takePayload_cases payload with same | ⟨test, reply, same⟩ | ⟨id, method, same⟩
  · rw [same]
  · rw [same]
    rfl
  · rw [same]

/-- No event changes the room for bytes under way. -/
theorem capacity_step (c : Connection) (event : Event) : (c.step event).capacity = c.capacity := by
  -- No step is about how much the pipe takes.
  have does := does_step c event
  generalize c.step event = d at does
  cases does with
  | wroteAll count writer => cases writer <;> rfl
  | took payload rest => exact capacity_takePayload { c with inbound := rest } payload
  | _ => rfl

/-- The room for bytes under way is the same in all of a run. -/
theorem capacity_run (c : Connection) (events : List Event) :
    (c.run events).capacity = c.capacity := by
  -- The events are taken one by one.
  induction events generalizing c with
  | nil => rfl
  | cons event events ih => exact (ih (c.step event)).trans (capacity_step c event)

/-- The number of requests stays the same while nobody makes any. -/
theorem length_run_own {events : List Event} (own : ∀ event ∈ events, event.IsOwn) :
    (c.run events).calls.length = c.calls.length := by
  -- The connection's own events ask for no request, one by one.
  induction events generalizing c with
  | nil => rfl
  | cons event events ih =>
    have later := ih (c := c.step event) fun other member => own other (List.mem_cons_of_mem _ member)
    exact later.trans (length_step (own event List.mem_cons_self))

/-- Own events make no requests. -/
theorem requestOf?_run_own {events : List Event} (own : ∀ event ∈ events, event.IsOwn) (id : Nat) :
    (c.run events).requestOf? id = c.requestOf? id := by
  -- The requests after the run are those before it and those asked for, which are none.
  have none : events.flatMap asked = [] := by
    rw [List.flatMap_eq_nil_iff]
    exact fun event member => (own event member).smooth.2.2
  have same := requests_run c events
  rw [none, List.append_nil, requests, requests] at same
  rw [requestOf?, requestOf?, ← List.getElem?_map, ← List.getElem?_map, same]

/-- Own events bring no bytes. -/
theorem arrived_own {events : List Event} (own : ∀ event ∈ events, event.IsOwn) :
    arrived events = [] := by
  -- Not one of the events is an arrival.
  rw [arrived, List.flatMap_eq_nil_iff]
  exact fun event member => (own event member).smooth.2.1

/-- An event that changes a part of the connection is one that it does not rest from. -/
theorem Resting.same {α : Type} (resting : Resting c) (own : event.IsOwn) (view : Connection → α) :
    view (c.step event) = view c := congrArg view (resting event own)

/-- At rest all that was written has been taken. -/
theorem Resting.outbound (resting : Resting c) : c.outbound = [] := by
  -- At rest even a delivery of everything changes nothing, so nothing was there to deliver.
  have own : (Event.deliver c.outbound.length).IsOwn := trivial
  have same : c.outbound.drop c.outbound.length = c.outbound := resting.same own Connection.outbound
  rw [← same]
  exact List.drop_length

section Rest

variable {capacity : Nat} {events : List Event} {payloads : List (List UInt8)}

/-- At rest nobody holds the writer, if there is room for a byte. -/
theorem Resting.holder (resting : Resting c) (o : Orderly c) (p : Open c) (s : Spoken c)
    (room : 0 < c.capacity) : c.holder = none := by
  cases held : c.holder with
  | none => rfl
  | some holding =>
    exfalso
    obtain ⟨writer, bytes⟩ := holding
    obtain ⟨id, rfl⟩ := p.call_holds o held
    have own : (Event.write 1).IsOwn := trivial
    have unstuck : (c.peerGone || c.shut) = false := by rw [p.taking, p.unshut]; rfl
    -- Nothing is under way at rest, so there is room for one byte.
    have one : min 1 (c.capacity - c.outbound.length) = 1 := by
      rw [resting.outbound, List.length_nil]
      omega
    -- One byte more would be under way.
    have after : (c.step (.write 1)).outbound = bytes.take 1 := by
      simp only [step, write, held, unstuck, one, Bool.false_eq_true, if_false]
      split
      · show c.outbound ++ bytes.take 1 = _
        rw [resting.outbound, List.nil_append]
      · show c.outbound ++ bytes.take 1 = _
        rw [resting.outbound, List.nil_append]
    -- At rest it is not, and so the holder would have nothing to write, which no holder has.
    have none : bytes.take 1 = [] := by
      rw [← after, resting.same own Connection.outbound, resting.outbound]
    have some : bytes ≠ [] := s.unfinished _ _ held
    cases bytes with
    | nil => exact some rfl
    | cons byte bytes => cases none

/-- At rest nobody stands in line for a free writer. -/
theorem Resting.line (resting : Resting c) (o : Orderly c) (p : Open c) (free : c.holder = none) :
    c.line = [] := by
  cases first : c.line with
  | nil => rfl
  | cons writer line =>
    -- The first in line would be granted the writer, and the line would be shorter.
    exfalso
    obtain ⟨id, rfl⟩ := p.calls_in_line o (show writer ∈ c.line by rw [first]; simp)
    have own : Event.grant.IsOwn := trivial
    have queued : c.stageOf? id = some .queued := o.stageOf?_first first
    obtain ⟨call, here, _⟩ := Option.map_eq_some_iff.mp queued
    have after : (c.step .grant).line = line := by simp only [step, grant, free, first, here]
    have same := after.symm.trans (resting.same own Connection.line)
    rw [first] at same
    exact absurd (congrArg List.length same) (by simp)

/-- At rest every request has been written as a whole, or has ended. -/
theorem Resting.stage (resting : Resting c) (o : Orderly c) (p : Open c) (s : Spoken c)
    (room : 0 < c.capacity) {id : Nat} {stage : Stage} (found : c.stageOf? id = some stage) :
    stage = .waiting ∨ stage = .abandoned ∨ ∃ outcome, stage = .finished outcome := by
  have free : c.holder = none := resting.holder o p s room
  have line : c.line = [] := resting.line o p free
  -- From every earlier stage an event of its own would take it on.
  cases stage with
  | fresh =>
    have own : (Event.register id).IsOwn := trivial
    have after := stageOf?_of_enters ⟨rfl, found, p.isOpen⟩
    rw [resting.same own (Connection.stageOf? · id), found] at after
    cases after
  | registered =>
    have own : (Event.queue id).IsOwn := trivial
    have after : (c.step (.queue id)).line = c.line ++ [.call id] := by
      simp only [step, queue, found, if_true]
    rw [resting.same own Connection.line, line] at after
    cases after
  | queued =>
    -- Nobody is in line at rest.
    have member : Writer.call id ∈ c.line := (o.queued id).mpr found
    rw [line] at member
    cases member
  | writing =>
    -- Nobody holds the right to write at rest.
    have holds : c.writer? = some (.call id) := (o.writing id).mpr found
    rw [writer?, free] at holds
    cases holds
  | waiting => exact .inl rfl
  | finished outcome => exact .inr (.inr ⟨outcome, rfl⟩)
  | abandoned => exact .inr (.inl rfl)

/-- At rest the reader has taken all payloads, if all bytes have arrived. -/
theorem Receiving.all_read (r : Receiving capacity events payloads)
    (all : arrived events = stream payloads) (resting : Resting ((start capacity).run events)) :
    Reads capacity events payloads [] := by
  obtain ⟨taken, rest, rfl, reads⟩ := r.reads
  have left : ((start capacity).run events).inbound = stream rest := by
    have bytes := reads.bytes
    rw [all, stream, List.flatMap_append] at bytes
    exact (List.append_cancel_left bytes).symm
  rcases reads.stands.readsOn reads.begins
    fun payload member => r.accepted payload (List.mem_append_right _ member) with
    ⟨_, unfinished⟩ | ⟨payload, more, behind, first, whole, frame⟩
  · -- The reader waits for the rest of a frame, and no such rest is left to come.
    cases rest with
    | nil =>
      rw [List.append_nil]
      exact reads
    | cons payload more =>
      refine absurd ?_ (unfinished payload more rfl)
      rw [left]
      exact List.prefix_append _ _
  · -- The reader would take one more.
    exfalso
    have own : Event.read.IsOwn := trivial
    have quiet : Quiet payload := r.quiet payload (by simp [first])
    have opens : Open { (start capacity).run events with inbound := behind } :=
      reads.stands.congr rfl rfl rfl rfl rfl rfl
    have after : (((start capacity).run events).step .read).inbound = behind := by
      rw [(reads.stands.step_read_frame frame).1, (opens.takePayload quiet).2]
    rw [resting.same own Connection.inbound, whole] at after
    exact writeFrame_ne_nil payload (List.append_left_eq_self.mp after)

/-- At rest, when all bytes have arrived, every request that the other side answers is finished. -/
theorem Receiving.finished (r : Receiving capacity events payloads) (room : 0 < capacity)
    (few : ((start capacity).run events).calls.length < 2 ^ 64)
    (all : arrived events = stream payloads) (resting : Resting ((start capacity).run events))
    {id : Nat} {reply : Reply} (responds : Responds capacity events payloads id (Replies id reply))
    {request : Request} (asks : ((start capacity).run events).requestOf? id = some request) :
    ((start capacity).run events).stageOf? id = some (.finished (outcomeOf request reply)) := by
  have orderly : Orderly ((start capacity).run events) := (Orderly.start capacity).run events
  have spoken : Spoken ((start capacity).run events) :=
    (Spoken.start capacity).run (.start capacity) events
  have reads := r.all_read all resting
  have room' : 0 < ((start capacity).run events).capacity := by
    rw [capacity_run]
    exact room
  obtain ⟨stage, found⟩ := stageOf?_of_requestOf? asks
  rcases resting.stage orderly reads.stands spoken room' found with rfl | rfl | ⟨outcome, rfl⟩
  · -- A request that has its answer would take it.
    exfalso
    obtain ⟨said, has⟩ := r.has responds found reads
    have own : (Event.finish id).IsOwn := trivial
    have after : (((start capacity).run events).step (.finish id)).stageOf? id =
        some (.finished (outcomeOf request said)) := by
      have finish : ((start capacity).run events).step (.finish id) =
          ((start capacity).run events).finish id := rfl
      rw [finish, Alike.finish_eq, found, asks, has]
      simp [found]
    rw [resting.same own (Connection.stageOf? · id), found] at after
    cases after
  · -- Nobody has given up.
    exact absurd found ((r.answers few).present id)
  · obtain ⟨request', asks', ended⟩ := r.outcome few responds found
    rw [asks, Option.some.injEq] at asks'
    rw [found, asks', ended]

/-- Own events take nothing from what the other side answers. -/
theorem Responds.goes {id : Nat} {wanted : List UInt8 → Prop}
    (responds : Responds capacity events payloads id wanted) {more : List Event}
    (own : ∀ event ∈ more, event.IsOwn) : Responds capacity (events ++ more) payloads id wanted := by
  obtain ⟨front, answer, behind, split, others, said, asked⟩ := responds.first
  refine ⟨front, answer, behind, split, others, said, fun first second same arrives => ?_⟩
  -- Own events bring no bytes, so that the answer has not come before the request by then either.
  rcases List.append_eq_append_iff.mp same with ⟨later, rfl, rfl⟩ | ⟨between, rfl, rfl⟩
  · have earlier : arrived (events ++ later) = arrived events := by
      rw [arrived_append, arrived_own fun event member => own event (List.mem_append_left _ member),
        List.append_nil]
    rw [earlier] at arrives
    obtain ⟨stage, found, notFresh⟩ := asked events [] (List.append_nil _).symm arrives
    rw [run_append]
    exact not_fresh_run ((Orderly.start capacity).run events) found notFresh later
  · exact asked first between rfl arrives

end Rest

end TemplateFacts.Wire.Connection
