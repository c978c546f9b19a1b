import TemplateFacts.Proofs.Wire.Life

/-!
What is written on a connection: every byte is written by the holder of the writer, from what it has
left to write, and the other side takes the bytes in that order.
-/

namespace TemplateFacts.Wire.Connection

variable {c : Connection}

/-- All bytes that were ever written, taken by the other side or not. -/
def sent (c : Connection) : List UInt8 := c.delivered ++ c.outbound

/-- Who writes at an event, and which bytes. -/
def wrote? (c : Connection) : Event → Option (Writer × List UInt8)
  | .write count =>
    match c.holder with
    | none => none
    | some (writer, bytes) =>
      if c.peerGone || c.shut then none
      else some (writer, bytes.take (min count (c.capacity - c.outbound.length)))
  | _ => none

/-- The bytes that are written at an event. -/
def bytesAt (c : Connection) (event : Event) : List UInt8 :=
  ((c.wrote? event).map Prod.snd).getD []

@[simp] theorem sent_moveTo (c : Connection) (id : Nat) (stage : Stage) :
    (c.moveTo id stage).sent = c.sent := rfl

@[simp] theorem sent_bring (c : Connection) (test : Nat → Bool) (reply : Reply) :
    (c.bring test reply).sent = c.sent := rfl

/-- Whoever writes holds the writer. -/
theorem writer?_of_wrote? {event : Event} {writer : Writer} {bytes : List UInt8}
    (writes : c.wrote? event = some (writer, bytes)) : c.writer? = some writer := by
  -- Only a write writes.
  cases event with
  | write count =>
    simp only [wrote?] at writes
    cases holds : c.holder with
    | none => simp [holds] at writes
    | some held =>
      rw [holds] at writes
      simp only at writes
      split at writes
      · cases writes
      · simp only [Option.some.injEq, Prod.mk.injEq] at writes
        simp [writer?, holds, writes.1]
  | _ => simp [wrote?] at writes

/-- An event that may find nothing to do writes nothing. -/
theorem bytesAt_of_mayIdle {event : Event} (idles : MayIdle event) : c.bytesAt event = [] := by
  -- Only a write puts bytes into the pipe.
  cases event with
  | write => exact idles.elim
  | _ => rfl

/-- Nothing is written where nobody holds the writer, or no byte is taken any more. -/
theorem bytesAt_idle (idle : c.holder = none ∨ (c.peerGone || c.shut) = true) (count : Nat) :
    c.bytesAt (.write count) = [] := by
  -- Without a holder nobody writes, and to a peer that is gone nothing is written.
  rcases idle with free | stuck
  · simp [bytesAt, wrote?, free]
  · cases held : c.holder with
    | none => simp [bytesAt, wrote?, held]
    | some holding => simp [bytesAt, wrote?, held, stuck]

/-- The holder writes as many bytes as there is room for. -/
theorem bytesAt_write {writer : Writer} {bytes : List UInt8}
    (held : c.holder = some (writer, bytes)) (taken : (c.peerGone || c.shut) = false)
    (count : Nat) :
    c.bytesAt (.write count) = bytes.take (min count (c.capacity - c.outbound.length)) := by
  -- What is written is what there is room for.
  simp [bytesAt, wrote?, held, taken]

/-- Reading a payload writes nothing. -/
theorem sent_takePayload (c : Connection) (payload : List UInt8) :
    (c.takePayload payload).sent = c.sent := by
  -- Taking a payload writes nothing.
  rcases c.takePayload_cases payload with same | ⟨test, reply, same⟩ | ⟨id, method, same⟩
  · rw [same]
  · rw [same, sent_bring]
  · rw [same]
    rfl

/-- What is sent grows at every event by what is written there. -/
theorem sent_step (c : Connection) (event : Event) :
    (c.step event).sent = c.sent ++ c.bytesAt event := by
  -- All events but a write leave the written bytes alone, or hand them over.
  have does := does_step c event
  generalize c.step event = d at does
  have kept (same : d.sent = c.sent) (silent : c.bytesAt event = []) :
      d.sent = c.sent ++ c.bytesAt event := by
    rw [same, silent, List.append_nil]
  cases does with
  | nothing event idles => exact kept rfl (bytesAt_of_mayIdle idles)
  | wroteNothing count idle => exact kept rfl (bytesAt_idle idle count)
  | wrotePart count writer bytes held taken =>
    rw [bytesAt_write held taken]
    exact (List.append_assoc ..).symm
  | wroteAll count writer bytes held taken all =>
    rw [bytesAt_write held taken, all]
    cases writer <;> exact (List.append_assoc ..).symm
  | took payload rest => exact kept (sent_takePayload { c with inbound := rest } payload) rfl
  | delivered count =>
    refine kept ?_ rfl
    simp only [sent, List.append_assoc, List.take_append_drop]
  | _ => exact kept rfl rfl

/-- The frame that a writer has to write. -/
def frameOf? (c : Connection) : Writer → Option (List UInt8)
  | .call id => (c.requestOf? id).map (requestFrame id)
  | .reader =>
    match c.reader with
    | .refusing frame => some frame
    | _ => none
  | .closing _ => none

/-- What an event does to the holder of the writer, and to what is written. -/
inductive Hands (c : Connection) (event : Event) : Prop where
  /-- The holder stays, or the writer stays free, and nothing is written. -/
  | kept (same : (c.step event).holder = c.holder)
      (frames : ∀ writer, c.writer? = some writer →
        (c.step event).frameOf? writer = c.frameOf? writer)
      (silent : c.bytesAt event = [])
  /-- Somebody takes the free writer, with a whole frame to write. -/
  | granted (writer : Writer) (frame : List UInt8) (free : c.holder = none)
      (holds : (c.step event).holder = some (writer, frame))
      (frames : (c.step event).frameOf? writer = some frame) (silent : c.bytesAt event = [])
  /-- The holder writes, and has something left to write. -/
  | wrote (writer : Writer) (bytes left : List UInt8)
      (held : c.holder = some (writer, bytes ++ left))
      (holds : (c.step event).holder = some (writer, left))
      (frames : (c.step event).frameOf? writer = c.frameOf? writer)
      (written : c.bytesAt event = bytes) (unfinished : left ≠ [])
  /-- The holder writes all that is left, and frees the writer. -/
  | finished (count : Nat) (writer : Writer) (left : List UInt8) (isWrite : event = .write count)
      (held : c.holder = some (writer, left)) (free : (c.step event).holder = none)
      (written : c.bytesAt event = left)
  /-- The holder frees the writer with something left to write. -/
  | cut (writer : Writer) (left : List UInt8) (held : c.holder = some (writer, left))
      (free : (c.step event).holder = none) (silent : c.bytesAt event = [])
      (cause : (∃ id, event = .abandon id ∧ writer = .call id) ∨ (∃ fault, event = .failWrite fault) ∨
        event = .close)

/-- Whoever holds the writer is a request or the reader. -/
theorem Orderly.not_closing (o : Orderly c) {writer : Writer} {left : List UInt8}
    (held : c.holder = some (writer, left)) (index : Nat) : writer ≠ .closing index := by
  -- A close is done as soon as it is granted, so it never holds the writer.
  rintro rfl
  exact o.closing_brief index (by simp [writer?, held])

/-- A reader that reads does not hold the writer. -/
theorem Orderly.not_reader (o : Orderly c) (reading : c.reader = .reading) :
    c.writer? ≠ some .reader := by
  -- The reader has the writer only while it refuses something.
  intro holds
  obtain ⟨frame, refusing⟩ := o.refusing.mp (.inr holds)
  rw [reading] at refusing
  cases refusing

/-- A frame depends on the request, or on what the reader refuses. -/
theorem frameOf?_congr {d : Connection} (requests : ∀ id, d.requestOf? id = c.requestOf? id)
    (reader : d.reader = c.reader) (writer : Writer) : d.frameOf? writer = c.frameOf? writer := by
  -- A frame is made of the request or of the refusal, and a close has none.
  cases writer with
  | call id => rw [frameOf?, frameOf?, requests]
  | reader => rw [frameOf?, frameOf?, reader]
  | closing index => rfl

/-- The frame of a request does not depend on the reader. -/
theorem frameOf?_call {d : Connection} (requests : ∀ id, d.requestOf? id = c.requestOf? id)
    (away : c.writer? ≠ some .reader) (writer : Writer) (holds : c.writer? = some writer) :
    d.frameOf? writer = c.frameOf? writer := by
  -- The holder is no reader, so its frame is a request's.
  cases writer with
  | call id => rw [frameOf?, frameOf?, requests]
  | reader => exact absurd holds away
  | closing index => rfl

/-- Requests of a longer list are still there. -/
theorem requestOf?_issue (request : Request) {id : Nat} {stage : Stage}
    (found : c.stageOf? id = some stage) :
    (c.step (.issue request)).requestOf? id = c.requestOf? id := by
  -- The new request comes behind all others.
  simp only [requestOf?, step, List.getElem?_append_left (lt_of_stageOf? found)]

/-- The reader keeps all requests as they are. -/
theorem requestOf?_takePayload (c : Connection) (payload : List UInt8) (id : Nat) :
    (c.takePayload payload).requestOf? id = c.requestOf? id := by
  -- Taking a payload asks for no request.
  rcases c.takePayload_cases payload with same | ⟨test, reply, same⟩ | ⟨id, method, same⟩
  · rw [same]
  · rw [same, requestOf?_bring]
  · rw [same]
    rfl

theorem holder_takePayload (c : Connection) (payload : List UInt8) :
    (c.takePayload payload).holder = c.holder := by
  -- Taking a payload leaves the writer where it is.
  rcases c.takePayload_cases payload with same | ⟨test, reply, same⟩ | ⟨id, method, same⟩
  · rw [same]
  · rw [same, holder_bring]
  · rw [same]

/-- Whoever does not hold the writer can withdraw without freeing it. -/
theorem holder_withdraw_of_ne {writer : Writer}
    (away : ∀ left, c.holder ≠ some (writer, left)) : (c.withdraw writer).holder = c.holder := by
  -- Only the holder itself can give the writer back.
  cases held : c.holder with
  | none => simp [withdraw, held]
  | some holding =>
    obtain ⟨other, left⟩ := holding
    have different : other ≠ writer := by
      rintro rfl
      exact away left held
    simp [withdraw, held, Option.filter, different]

/-- Whoever holds the writer frees it by withdrawing. -/
theorem holder_withdraw_self {writer : Writer} {left : List UInt8}
    (held : c.holder = some (writer, left)) : (c.withdraw writer).holder = none := by
  simp [withdraw, held, Option.filter]

theorem hands_close : c.Hands .close := by
  -- A reader that holds the writer is stopped, and a request goes on.
  by_cases holds : ∃ left, c.holder = some (.reader, left)
  · obtain ⟨left, held⟩ := holds
    exact .cut .reader left held (holder_withdraw_self (c := c.closeTable) held) rfl (.inr (.inr rfl))
  · have away : c.writer? ≠ some .reader := by
      intro isReader
      cases held : c.holder with
      | none => simp [writer?, held] at isReader
      | some holding =>
        obtain ⟨writer, left⟩ := holding
        obtain rfl : writer = .reader := by simpa [writer?, held] using isReader
        exact holds ⟨left, held⟩
    exact .kept (holder_withdraw_of_ne (c := c.closeTable) fun left held => holds ⟨left, held⟩)
      (frameOf?_call (d := c.close) (requestOf?_bring c (fun _ => true) .released) away) rfl

/-- Every event does one of these things to the holder of the writer. -/
theorem hands_step (o : Orderly c) (event : Event) : c.Hands event := by
  -- By cases on what the event does; the reader and the requests mostly have the frames they had.
  have does := does_step c event
  generalize same : c.step event = d at does
  have kept (holder : d.holder = c.holder)
      (frames : ∀ writer, c.writer? = some writer → d.frameOf? writer = c.frameOf? writer)
      (silent : c.bytesAt event = []) : c.Hands event :=
    .kept (same ▸ holder) (same ▸ frames) silent
  have still (holder : d.holder = c.holder) (requests : ∀ id, d.requestOf? id = c.requestOf? id)
      (reader : d.reader = c.reader) (silent : c.bytesAt event = []) : c.Hands event :=
    kept holder (fun writer _ => frameOf?_congr requests reader writer) silent
  have fromReading (reading : c.reader = .reading) (holder : d.holder = c.holder)
      (requests : ∀ id, d.requestOf? id = c.requestOf? id) (silent : c.bytesAt event = []) :
      c.Hands event :=
    kept holder (frameOf?_call requests (o.not_reader reading)) silent
  cases does with
  | nothing event idles => exact still rfl (fun _ => rfl) rfl (bytesAt_of_mayIdle idles)
  | issued request =>
    refine .kept rfl (fun writer holds => ?_) rfl
    cases writer with
    | call id => rw [frameOf?, frameOf?, requestOf?_issue request ((o.writing id).mp holds)]
    | reader => rfl
    | closing index => rfl
  | turnedAway id => exact still rfl (requestOf?_moveTo c id _) rfl rfl
  | registered id =>
    exact still rfl (fun other => (requestOf?_moveTo ..).trans (requestOf?_bring ..)) rfl rfl
  | queued id => exact still rfl (requestOf?_moveTo c id .queued) rfl rfl
  | granted id line call free first here =>
    refine .granted (.call id) (requestFrame id call.request) free (by rw [same]) ?_ rfl
    rw [same, frameOf?]
    show (Connection.requestOf? (c.moveTo id .writing) id).map (requestFrame id) = _
    rw [requestOf?_moveTo, requestOf?, here]
    rfl
  | grantedReader line frame free first refusing =>
    exact .granted .reader frame free (by rw [same]) (by simp only [same, frameOf?, refusing]) rfl
  | grantedClosing => exact still rfl (fun _ => rfl) rfl rfl
  | passedOver => exact still rfl (fun _ => rfl) rfl rfl
  | wroteNothing count idle => exact still rfl (fun _ => rfl) rfl (bytesAt_idle idle count)
  | wrotePart count writer bytes held taken more =>
    refine .wrote writer _ _ ?_ (by rw [same]) ?_ (bytesAt_write held taken count) more
    · rw [held, List.take_append_drop]
    · rw [same]
      rfl
  | wroteAll count writer bytes held taken all =>
    refine .finished count writer bytes rfl held ?_ ((bytesAt_write held taken count).trans all)
    rw [same]
    cases writer <;> rfl
  | failedCall fault id left held =>
    exact .cut (.call id) left held (by rw [same]; rfl) rfl (.inr (.inl ⟨fault, rfl⟩))
  | failedReader fault left held =>
    exact .cut .reader left held (by rw [same]; rfl) rfl (.inr (.inl ⟨fault, rfl⟩))
  | failedClosing fault index left held => exact absurd rfl (o.not_closing held index)
  | answered id => exact still rfl (requestOf?_moveTo c id _) rfl rfl
  | abandoned id =>
    -- Only the request that holds the writer leaves something behind.
    by_cases holds : ∃ left, c.holder = some (.call id, left)
    · obtain ⟨left, held⟩ := holds
      refine .cut (.call id) left held ?_ rfl (.inl ⟨id, rfl, rfl⟩)
      rw [same]
      exact holder_withdraw_self (c := c.moveTo id .abandoned) held
    · have away (left : List UInt8) : c.holder ≠ some (.call id, left) := fun held =>
        holds ⟨left, held⟩
      exact still (holder_withdraw_of_ne (c := c.moveTo id .abandoned) away)
        (requestOf?_moveTo c id .abandoned) rfl rfl
  | took payload rest reading =>
    exact fromReading reading (holder_takePayload { c with inbound := rest } payload)
      (requestOf?_takePayload { c with inbound := rest } payload) rfl
  | readToEnd reading => exact fromReading reading rfl (fun _ => requestOf?_bring ..) rfl
  | readFault reason reading =>
    exact fromReading reading rfl (fun _ => (requestOf?_bring ..).trans (requestOf?_bring ..)) rfl
  | failedRead reading => exact fromReading reading rfl (fun _ => requestOf?_bring ..) rfl
  | closed => exact hands_close
  | gaveUp index =>
    exact still (holder_withdraw_of_ne fun left held => o.not_closing held index rfl)
      (fun _ => rfl) rfl rfl
  | _ => exact still rfl (fun _ => rfl) rfl rfl

end TemplateFacts.Wire.Connection
