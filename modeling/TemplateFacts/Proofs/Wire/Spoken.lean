import TemplateFacts.Proofs.Json.Writer
import TemplateFacts.Proofs.Wire.Framing
import TemplateFacts.Proofs.Wire.Turns

/-!
Who speaks on a connection: every frame carries an object, no turn ends with a whole frame but by
writing it, and no turn is cut off in a calm run but by giving up the request whose turn it is.
-/

namespace TemplateFacts.Wire

/-- The frame carries an object. -/
def IsSpeech (frame : List UInt8) : Prop :=
  ∃ members, frame = writeFrame (Utf8.encode (Json.compact (.object members)))

/-- A frame is not empty. -/
theorem writeFrame_ne_nil (payload : List UInt8) : writeFrame payload ≠ [] := by
  -- There is a line for the length at least.
  rw [writeFrame_eq]
  simp

/-- The event neither closes the connection nor breaks its writing. -/
def Event.IsCalm : Event → Prop
  | .failWrite _ => False
  | .close => False
  | _ => True

namespace Connection

variable {c : Connection} {event : Event}

/-- What the reader turns to at an event. -/
inductive ReaderGoes (c : Connection) (event : Event) : Prop where
  | stays (same : (c.step event).reader = c.reader)
  | ends (reading : c.reader = .reading) (now : (c.step event).reader = .ended)
  | refuses (reading : c.reader = .reading) (id : Json) (method : String)
      (now : (c.step event).reader = .refusing (writeFrame (refusalPayload id method)))
  /-- The reader has written its frame, and reads on. -/
  | refused (count : Nat) (isWrite : event = .write count) (holds : c.writer? = some .reader)
      (free : (c.step event).holder = none) (now : (c.step event).reader = .reading)
  | breaks (stormy : ¬ event.IsCalm)
      (now : ∀ frame, (c.step event).reader = .refusing frame → c.reader = .refusing frame)

/-- A payload that is taken may have to be refused. -/
theorem reader_takePayload (c : Connection) (payload : List UInt8) :
    (c.takePayload payload).reader = c.reader ∨ ∃ id method,
      (c.takePayload payload).reader = .refusing (writeFrame (refusalPayload id method)) := by
  -- Only a demand gives the reader something to say.
  rcases c.takePayload_cases payload with same | ⟨test, reply, same⟩ | ⟨id, method, same⟩
  · exact .inl (by rw [same])
  · exact .inl (by rw [same, reader_bring])
  · exact .inr ⟨id, method, by rw [same]⟩

/-- The reader turns only from reading to refusing and back, until it ends. -/
theorem readerGoes_step (c : Connection) (event : Event) : c.ReaderGoes event := by
  -- Requests come and go without it; what it reads, writes and fails to write turns it.
  have does := does_step c event
  generalize now : c.step event = d at does
  have stays (same : d.reader = c.reader) : c.ReaderGoes event := .stays (now ▸ same)
  cases does with
  | wroteAll count writer bytes held =>
    cases writer with
    | reader =>
      exact .refused count rfl (by simp [writer?, held]) (by rw [now]; rfl) (by rw [now]; rfl)
    | _ => exact stays rfl
  | failedReader =>
    -- The turn of the reader ends with its failure.
    refine .breaks id fun frame refusing => ?_
    rw [now] at refusing
    cases refusing
  | took payload rest reading =>
    rcases reader_takePayload { c with inbound := rest } payload with same | ⟨id, method, turns⟩
    · exact stays same
    · exact .refuses reading id method (now ▸ turns)
  | readToEnd reading => exact .ends reading (by rw [now]; rfl)
  | readFault reason reading => exact .ends reading (by rw [now]; rfl)
  | failedRead reading => exact .ends reading (by rw [now]; rfl)
  | closed =>
    refine .breaks id fun frame refusing => ?_
    rw [now] at refusing
    cases refusing
  | _ => exact stays rfl

/-- Whoever writes has something to say, and has not said it all. -/
structure Spoken (c : Connection) : Prop where
  refusals : ∀ frame, c.reader = .refusing frame → IsSpeech frame
  unfinished : ∀ writer left, c.holder = some (writer, left) → left ≠ []

namespace Spoken

/-- Nobody speaks on a new connection. -/
theorem start (capacity : Nat) : Spoken (start capacity) := by
  -- At the start the reader reads and nobody holds the writer.
  constructor
  · intro frame refusing
    cases refusing
  · intro writer left held
    cases held

/-- Every frame that a writer has to write carries an object. -/
theorem speech (s : Spoken c) {writer : Writer} {frame : List UInt8}
    (frames : c.frameOf? writer = some frame) : IsSpeech frame := by
  -- A request is an object as it is made; a close has no frame.
  cases writer with
  | call id =>
    obtain ⟨request, _, rfl⟩ := Option.map_eq_some_iff.mp frames
    exact ⟨_, rfl⟩
  | reader =>
    simp only [frameOf?] at frames
    split at frames
    · rename_i refused refusing
      rw [← Option.some.inj frames]
      exact s.refusals refused refusing
    · cases frames
  | closing index => cases frames

/-- No event leaves anybody without something to say. -/
theorem step (s : Spoken c) (o : Orderly c) (event : Event) : Spoken (c.step event) := by
  -- New refusals carry objects, and a turn begins with all that it has to write.
  have refusals : ∀ frame, (c.step event).reader = .refusing frame → IsSpeech frame := by
    intro frame refusing
    rcases readerGoes_step c event with same | ⟨_, now⟩ | ⟨_, id, method, now⟩ | ⟨_, _, _, _, now⟩ |
      ⟨_, now⟩
    · exact s.refusals frame (same.symm.trans refusing)
    · cases now.symm.trans refusing
    · cases now.symm.trans refusing
      exact ⟨_, rfl⟩
    · cases now.symm.trans refusing
    · exact s.refusals frame (now frame refusing)
  refine ⟨refusals, fun writer left holds => ?_⟩
  rcases hands_step o event with ⟨same, _, _⟩ | ⟨writer', frame, _, holds', frames, _⟩ |
    ⟨writer', bytes, left', _, holds', _, _, unfinished⟩ | ⟨_, _, _, _, _, free, _⟩ |
    ⟨_, _, _, free, _, _⟩
  · -- The turn goes on as it was.
    exact s.unfinished writer left (same.symm.trans holds)
  · -- A new turn has the whole frame to write.
    rw [holds', Option.some.injEq, Prod.mk.injEq] at holds
    obtain ⟨_, rfl⟩ := holds
    have now : Spoken { c.step event with holder := none } := ⟨refusals, fun _ _ held => by cases held⟩
    have speech : IsSpeech frame := now.speech frames
    obtain ⟨members, rfl⟩ := speech
    exact writeFrame_ne_nil _
  · -- What is left behind a written part is not empty.
    rw [holds', Option.some.injEq, Prod.mk.injEq] at holds
    obtain ⟨_, rfl⟩ := holds
    exact unfinished
  · cases free.symm.trans holds
  · cases free.symm.trans holds

/-- No run leaves anybody without something to say. -/
theorem run (s : Spoken c) (o : Orderly c) (events : List Event) : Spoken (c.run events) := by
  -- The events are taken one by one.
  induction events generalizing c with
  | nil => exact s
  | cons event events ih => exact ih (s.step o event) (o.step event)

end Spoken

section Ends

variable {turn : Turn}

/-- Whoever has written all frees the writer with a whole frame. -/
theorem turnAt_write {count : Nat} {writer : Writer} {frame : List UInt8}
    (holds : c.writer? = some writer) (frames : c.frameOf? writer = some frame)
    (free : (c.step (.write count)).holder = none) : c.turnAt (.write count) = [.whole frame] := by
  -- The writer that held the pipe is free, so its frame was written to the end.
  cases held : c.holder with
  | none => simp [writer?, held] at holds
  | some holding =>
    obtain ⟨other, left⟩ := holding
    obtain rfl : other = writer := by simpa [writer?, held] using holds
    simp only [turnAt, held, free, frames, Option.getD_some]

/-- What ends at an event is the turn of the holder: with its whole frame, or with a part of it. -/
theorem turnAt_cases (o : Orderly c) (f : Framed c) (ends : turn ∈ c.turnAt event) :
    (∃ writer frame, c.frameOf? writer = some frame ∧ turn = .whole frame) ∨
      (∃ writer left, c.frameOf? writer = some (c.part ++ left) ∧ turn = .cut c.part ∧
        ((∃ id, event = .abandon id ∧ c.writer? = some (.call id)) ∨ ¬ event.IsCalm)) := by
  have nothing (none : c.turnAt event = []) : turn ∉ c.turnAt event := by
    rw [none]
    exact List.not_mem_nil
  rcases hands_step o event with ⟨same, _, _⟩ | ⟨writer, frame, free, _, _, _⟩ |
    ⟨writer, bytes, left, held, holds, _, _, _⟩ | ⟨count, writer, left, rfl, held, free, _⟩ |
    ⟨writer, left, held, free, _, cause⟩
  -- A turn ends only when the holder is freed, with its last byte or before it.
  · refine absurd ends (nothing ?_)
    unfold turnAt
    rw [same]
    cases c.holder <;> rfl
  · exact absurd ends (nothing (by simp only [turnAt, free]))
  · exact absurd ends (nothing (by simp only [turnAt, held, holds]))
  · -- The last byte is written: the turn ends with the whole frame.
    have holds : c.writer? = some writer := by simp [writer?, held]
    have frames := f writer left held
    rw [turnAt_write holds frames free, List.mem_singleton] at ends
    exact .inl ⟨writer, _, frames, ends⟩
  · -- It ends before, by giving up or by an event that is not calm.
    have cut : c.turnAt event = [.cut c.part] := by
      rcases cause with ⟨id, rfl, _⟩ | ⟨fault, rfl⟩ | rfl <;> simp only [turnAt, held, free]
    rw [cut, List.mem_singleton] at ends
    refine .inr ⟨writer, left, f writer left held, ends, ?_⟩
    rcases cause with ⟨id, isAbandon, rfl⟩ | ⟨fault, rfl⟩ | rfl
    · exact .inl ⟨id, isAbandon, by simp [writer?, held]⟩
    · exact .inr id
    · exact .inr id

/-- Every turn of a run ends at one of its events. -/
theorem mem_turns (c : Connection) (events : List Event) (ends : turn ∈ c.turns events) :
    ∃ first event second, events = first ++ event :: second ∧
      turn ∈ (c.run first).turnAt event := by
  -- The turn belongs to one event, before which the earlier ones have run.
  induction events generalizing c with
  | nil => cases ends
  | cons event events ih =>
    rcases List.mem_append.mp ends with now | later
    · exact ⟨[], event, events, rfl, now⟩
    · obtain ⟨first, event', second, rfl, there⟩ := ih (c.step event) later
      exact ⟨event :: first, event', second, rfl, there⟩

/-- Every whole frame of a run carries an object. -/
theorem speech_of_whole (capacity : Nat) {events : List Event} {frame : List UInt8}
    (ends : .whole frame ∈ (start capacity).turns events) : IsSpeech frame := by
  -- A turn that ends whole has sent the frame of its writer.
  obtain ⟨first, event, second, rfl, there⟩ := mem_turns _ _ ends
  have orderly : Orderly ((start capacity).run first) := (Orderly.start capacity).run first
  have framed : Framed ((start capacity).run first) := (sent_run_start capacity first).1
  have spoken : Spoken ((start capacity).run first) := (Spoken.start capacity).run (.start capacity) first
  rcases turnAt_cases orderly framed there with ⟨writer, whole, frames, same⟩ | ⟨_, _, _, same, _⟩
  · rw [Turn.whole.injEq] at same
    rw [same]
    exact spoken.speech frames
  · cases same

/-- Every part of a run is the beginning of a frame. -/
theorem part_of_cut (capacity : Nat) {events : List Event} {part : List UInt8}
    (ends : .cut part ∈ (start capacity).turns events) : ∃ payload, part <+: writeFrame payload := by
  -- A turn that is cut off has sent a front of the frame of its writer.
  obtain ⟨first, event, second, rfl, there⟩ := mem_turns _ _ ends
  have orderly : Orderly ((start capacity).run first) := (Orderly.start capacity).run first
  have framed : Framed ((start capacity).run first) := (sent_run_start capacity first).1
  have spoken : Spoken ((start capacity).run first) := (Spoken.start capacity).run (.start capacity) first
  rcases turnAt_cases orderly framed there with ⟨_, _, _, same⟩ | ⟨writer, left, frames, same, _⟩
  · cases same
  · rw [Turn.cut.injEq] at same
    obtain ⟨members, whole⟩ := spoken.speech frames
    exact ⟨_, left, same ▸ whole⟩

/-- In a calm run a turn is cut off only by giving up the request whose turn it is. -/
theorem abandoned_of_cut (capacity : Nat) {events : List Event}
    (calm : ∀ event ∈ events, event.IsCalm) {part : List UInt8}
    (ends : .cut part ∈ (start capacity).turns events) :
    ∃ first id second, events = first ++ .abandon id :: second ∧
      ((start capacity).run first).writer? = some (.call id) ∧
      ((start capacity).run first).part = part := by
  obtain ⟨first, event, second, rfl, there⟩ := mem_turns _ _ ends
  have orderly : Orderly ((start capacity).run first) := (Orderly.start capacity).run first
  have framed : Framed ((start capacity).run first) := (sent_run_start capacity first).1
  -- The turn ends at one of the events, which cuts it off.
  rcases turnAt_cases orderly framed there with ⟨_, _, _, same⟩ | ⟨_, _, _, same, cause⟩
  · cases same
  · rw [Turn.cut.injEq] at same
    rcases cause with ⟨id, rfl, holds⟩ | stormy
    · exact ⟨first, id, second, rfl, holds, same.symm⟩
    · exact absurd (calm event (by simp)) stormy

end Ends

/-- The part under way is not a whole frame. -/
theorem part_underWay (f : Framed c) (s : Spoken c) :
    ∃ payload, c.part <+: writeFrame payload ∧ c.part ≠ writeFrame payload := by
  -- A holder always has bytes left; without one nothing is under way, and no frame is empty.
  cases held : c.holder with
  | none =>
    refine ⟨[], ?_, ?_⟩
    · rw [part_of_free held]
      exact List.nil_prefix
    · rw [part_of_free held]
      exact (writeFrame_ne_nil []).symm
  | some holding =>
    obtain ⟨writer, left⟩ := holding
    have frames := f writer left held
    obtain ⟨members, whole⟩ := s.speech frames
    refine ⟨_, ⟨left, whole⟩, fun same => s.unfinished writer left held ?_⟩
    rw [← same] at whole
    simpa using whole

/-- A request with a stage asks for something. -/
theorem requestOf?_of_stageOf? {id : Nat} {stage : Stage} (found : c.stageOf? id = some stage) :
    ∃ request, c.requestOf? id = some request := by
  obtain ⟨call, there, _⟩ := Option.map_eq_some_iff.mp found
  exact ⟨call.request, by rw [requestOf?, there, Option.map_some]⟩

/-- A request that asks for something has a stage. -/
theorem stageOf?_of_requestOf? {id : Nat} {request : Request} (asks : c.requestOf? id = some request) :
    ∃ stage, c.stageOf? id = some stage := by
  obtain ⟨call, there, _⟩ := Option.map_eq_some_iff.mp asks
  exact ⟨call.stage, by rw [stageOf?, there, Option.map_some]⟩

/-- A request whose writing is over has freed the writer. -/
theorem free_of_written (o : Orderly c) {id : Nat} (holds : c.writer? = some (.call id))
    (written : (c.step event).stageOf? id ≠ some .writing) : (c.step event).holder = none := by
  -- A writer that is done writing holds the pipe no longer, and nobody else has had it yet.
  have away : (c.step event).writer? ≠ some (.call id) :=
    fun holds => written (((o.step event).writing id).mp holds)
  rcases hands_step o event with ⟨same, _, _⟩ | ⟨_, _, free, _, _, _⟩ |
    ⟨writer, _, left, held, holds', _, _, _⟩ | ⟨_, _, _, _, _, free, _⟩ | ⟨_, _, _, free, _, _⟩
  · exact absurd (by rw [writer?, same]; exact holds) away
  · simp [writer?, free] at holds
  · obtain rfl : writer = .call id := by simpa [writer?, held] using holds
    exact absurd (by simp [writer?, holds']) away
  · exact free
  · exact free

/-- A request that waits for its answer has been written as a whole. -/
theorem whole_of_waiting (o : Orderly c) {events : List Event} {id : Nat} {request : Request}
    (waits : (c.run events).stageOf? id = some .waiting)
    (asks : (c.run events).requestOf? id = some request) :
    c.stageOf? id = some .waiting ∨ .whole (requestFrame id request) ∈ c.turns events := by
  -- By induction on the events: it begins to wait by writing the last byte of its frame.
  induction events generalizing c with
  | nil => exact .inl waits
  | cons event events ih =>
    rcases ih (o.step event) waits asks with now | later
    · rcases came_step o now with ⟨_, new⟩ | ⟨old, before, goes⟩
      · cases new
      · cases goes with
        | stays => exact .inl before
        | written count =>
          -- The last byte of the frame is written by this event.
          right
          have holds : c.writer? = some (.call id) := (o.writing id).mpr before
          have free : (c.step (.write count)).holder = none :=
            free_of_written o holds (by rw [now]; decide)
          have frames : c.frameOf? (.call id) = some (requestFrame id request) := by
            obtain ⟨asked, there⟩ := requestOf?_of_stageOf? before
            have still := requestOf?_run there (.write count :: events)
            rw [asks, Option.some.injEq] at still
            rw [frameOf?, there, ← still, Option.map_some]
          rw [turns, turnAt_write holds frames free]
          exact List.mem_cons_self
    · -- It was written by one of those behind.
      exact .inr (List.mem_append_right _ later)

/-- A refusal stays under way until it has been written as a whole. -/
theorem whole_of_refused (o : Orderly c) {events : List Event}
    (calm : ∀ event ∈ events, event.IsCalm) {frame : List UInt8}
    (refusing : c.reader = .refusing frame) :
    (c.run events).reader = .refusing frame ∨ .whole frame ∈ c.turns events := by
  -- By induction on the events: the reader goes on only behind the last byte of the frame.
  induction events generalizing c with
  | nil => exact .inl refusing
  | cons event events ih =>
    have later (still : (c.step event).reader = .refusing frame) :
        (c.run (event :: events)).reader = .refusing frame ∨ .whole frame ∈ c.turns (event :: events) := by
      rcases ih (o.step event) (fun other member => calm other (List.mem_cons_of_mem _ member)) still
        with there | written
      · exact .inl there
      · exact .inr (List.mem_append_right _ written)
    rcases readerGoes_step c event with same | ⟨reading, _⟩ | ⟨reading, _, _, _⟩ |
      ⟨count, rfl, holds, free, _⟩ | ⟨stormy, _⟩
    · exact later (same.trans refusing)
    · cases reading.symm.trans refusing
    · cases reading.symm.trans refusing
    · right
      have frames : c.frameOf? .reader = some frame := by simp only [frameOf?, refusing]
      rw [turns, turnAt_write holds frames free]
      exact List.mem_cons_self
    · exact absurd (calm event List.mem_cons_self) stormy

end Connection

end TemplateFacts.Wire
