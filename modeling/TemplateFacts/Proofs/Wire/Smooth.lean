import TemplateFacts.Proofs.Wire.Correlation
import TemplateFacts.Proofs.Wire.Framing
import TemplateFacts.Proofs.Wire.Spoken

/-!
Smooth runs: nobody closes or breaks the connection or gives up, and the other side sends answers and
notifications. The reader then takes one payload after another, and all that comes to a request, or
ends it, is an answer.
-/

namespace TemplateFacts.Wire

/-- The event neither closes nor breaks the connection, and gives up no request. -/
def Event.IsSmooth : Event → Prop
  | .issue _ | .register _ | .queue _ | .grant | .write _ | .finish _ | .arrive _ | .read
  | .deliver _ => True
  | .failWrite _ | .abandon _ | .endInbound | .failRead | .hangUp | .close
  | .failShut _ | .giveUp _ => False

/-- The bytes that arrive at an event. -/
def Event.arrived : Event → List UInt8
  | .arrive bytes => bytes
  | _ => []

/-- The bytes that arrive in a run. -/
def arrived (events : List Event) : List UInt8 := events.flatMap Event.arrived

/-- The response that a payload is, if it is one. -/
def responseIn? (payload : List UInt8) : Option (Nat × Reply) :=
  (Message.ofPayload payload).toOption.bind Connection.responseOf?

/-- The payload neither asks for anything nor concerns all requests at once: it is an answer, or a
notification, or nothing at all. -/
def Quiet (payload : List UInt8) : Prop :=
  ∀ m, Message.ofPayload payload = .ok m → m.id = none ∨ m.method = none ∧ m.id ≠ some .null

namespace Connection

variable {c : Connection} {event : Event}

/-- What the reader does with a stream of payloads: it waits, or it takes the first payload. -/
inductive ReadsOn (c : Connection) (rest : List (List UInt8)) : Prop where
  | waits (reads : readFrame c.inboundEnded c.inbound = .unfinished)
      (unfinished : ∀ payload more, rest = payload :: more → ¬ writeFrame payload <+: c.inbound)
  | takes (payload : List UInt8) (more : List (List UInt8)) (left : List UInt8)
      (first : rest = payload :: more) (whole : c.inbound = writeFrame payload ++ left)
      (reads : readFrame c.inboundEnded c.inbound = .frame payload left)

/-- A connection on which nothing has ended yet, and whose reader reads. -/
structure Open (c : Connection) : Prop where
  reading : c.reader = .reading
  isOpen : c.table.closed = false
  arriving : c.inboundEnded = false
  taking : c.peerGone = false
  unshut : c.shut = false
  unclosed : c.closings = []

namespace Open

/-- Nothing has ended on a new connection. -/
theorem start (capacity : Nat) : Open (start capacity) := ⟨rfl, rfl, rfl, rfl, rfl, rfl⟩

/-- Only requests stand in line. -/
theorem calls_in_line (p : Open c) (o : Orderly c) {writer : Writer} (member : writer ∈ c.line) :
    ∃ id, writer = .call id := by
  -- A reader in line would refuse something, and there is no close.
  cases writer with
  | call id => exact ⟨id, rfl⟩
  | reader =>
    obtain ⟨frame, refusing⟩ := o.refusing.mp (.inl member)
    rw [p.reading] at refusing
    cases refusing
  | closing index =>
    have known := o.closing_known index member
    rw [p.unclosed] at known
    cases known

/-- Only a request holds the writer. -/
theorem call_holds (p : Open c) (o : Orderly c) {writer : Writer} {left : List UInt8}
    (held : c.holder = some (writer, left)) : ∃ id, writer = .call id := by
  -- The reader is reading, and no close holds the writer.
  have holds : c.writer? = some writer := by simp [writer?, held]
  cases writer with
  | call id => exact ⟨id, rfl⟩
  | reader => exact absurd holds (o.not_reader p.reading)
  | closing index => exact absurd rfl (o.not_closing held index)

/-- What differs in requests, in the writer or in the bytes written is as open. -/
theorem congr (p : Open c) {d : Connection} (reader : d.reader = c.reader)
    (closed : d.table.closed = c.table.closed) (ended : d.inboundEnded = c.inboundEnded)
    (gone : d.peerGone = c.peerGone) (shut : d.shut = c.shut) (closings : d.closings = c.closings) :
    Open d :=
  ⟨reader.trans p.reading, closed.trans p.isOpen, ended.trans p.arriving, gone.trans p.taking,
    shut.trans p.unshut, closings.trans p.unclosed⟩

/-- A quiet payload ends nothing, and takes nothing from the stream. -/
theorem takePayload (p : Open c) {payload : List UInt8} (quiet : Quiet payload) :
    Open (c.takePayload payload) ∧ (c.takePayload payload).inbound = c.inbound := by
  unfold Connection.takePayload
  -- Only a request of the other side would have to be refused, and a quiet payload is none.
  split
  · rename_i m said
    unfold takeMessage
    split
    · exact ⟨p.congr rfl rfl rfl rfl rfl rfl, rfl⟩
    · rename_i id method isId isMethod
      rcases quiet m said with none | ⟨none, _⟩
      · rw [none] at isId
        cases isId
      · rw [none] at isMethod
        cases isMethod
    · split
      · exact ⟨p.congr rfl rfl rfl rfl rfl rfl, rfl⟩
      · exact ⟨p, rfl⟩
  · exact ⟨p, rfl⟩

/-- No smooth event but reading ends anything or takes from the stream, which grows by what arrives. -/
theorem step_of_not_read (p : Open c) (o : Orderly c) (smooth : event.IsSmooth)
    (others : event ≠ .read) :
    Open (c.step event) ∧ (c.step event).inbound = c.inbound ++ event.arrived := by
  -- Only requests stand in line and hold the writer, so that nothing is closed or turns the reader.
  have does := does_step c event
  generalize c.step event = d at does
  have kept (opens : Open d) (same : d.inbound = c.inbound) (silent : event.arrived = []) :
      Open d ∧ d.inbound = c.inbound ++ event.arrived :=
    ⟨opens, by rw [same, silent, List.append_nil]⟩
  cases does with
  | nothing event idles =>
    cases event with
    | arrive => exact idles.elim
    | _ => exact kept p rfl rfl
  | grantedReader line frame free first =>
    obtain ⟨id, same⟩ := p.calls_in_line o (show Writer.reader ∈ c.line by rw [first]; simp)
    cases same
  | grantedClosing index line free first =>
    obtain ⟨id, same⟩ := p.calls_in_line o (show Writer.closing index ∈ c.line by rw [first]; simp)
    cases same
  | wroteAll count writer bytes held =>
    obtain ⟨id, rfl⟩ := p.call_holds o held
    exact kept (p.congr rfl rfl rfl rfl rfl rfl) rfl rfl
  | arrived bytes => exact ⟨p.congr rfl rfl rfl rfl rfl rfl, rfl⟩
  | arrivedLate bytes ended =>
    rw [p.arriving] at ended
    cases ended
  | took | readToEnd | readFault => exact absurd rfl others
  | failedCall | failedReader | failedClosing | abandoned | inboundEnded | failedRead | hungUp
  | closed | failedShut | gaveUp => exact smooth.elim
  | _ => exact kept (p.congr rfl rfl rfl rfl rfl rfl) rfl rfl

/-- A reader waits for a whole frame, and then takes it. -/
theorem readsOn (p : Open c) {rest : List (List UInt8)} (begins : c.inbound <+: stream rest)
    (accepted : ∀ payload ∈ rest, payload.length ≤ greatestPayload) : c.ReadsOn rest := by
  cases rest with
  | nil =>
    have empty : c.inbound = [] := List.prefix_nil.mp begins
    refine .waits ?_ fun payload more same => by cases same
    rw [p.arriving, empty]
    rfl
  | cons payload more =>
    have fits : payload.length ≤ greatestPayload := accepted payload List.mem_cons_self
    have split : c.inbound <+: writeFrame payload ++ stream more := begins
    -- What is there begins the stream: it has the next frame as a whole, or only a part of it.
    by_cases whole : writeFrame payload <+: c.inbound
    · obtain ⟨left, same⟩ := whole
      refine .takes payload more left rfl same.symm ?_
      rw [p.arriving, ← same]
      exact readFrame_writeFrame fits
    · have part : c.inbound <+: writeFrame payload := by
        rcases prefix_append_cases split with inside | ⟨behind, same, _⟩
        · exact inside
        · exact absurd ⟨behind, same.symm⟩ whole
      have isPart : c.inbound ≠ writeFrame payload := by
        intro same
        exact whole (same ▸ List.prefix_rfl)
      refine .waits ?_ fun other others same => ?_
      · rw [p.arriving]
        exact readFrame_part fits part isPart
      · rw [(List.cons.inj same).1] at whole
        exact whole

/-- A reader that waits changes nothing. -/
theorem step_read_unfinished (p : Open c)
    (reads : readFrame c.inboundEnded c.inbound = .unfinished) :
    c.step .read = c ∧ c.response? .read = none := by
  -- Without a whole frame the read waits.
  constructor
  · simp only [step, read, p.reading, reads]
  · simp only [response?, message?, taken?, p.reading, reads, Option.bind_none]

/-- A reader takes the payload of the first frame. -/
theorem step_read_frame (p : Open c) {payload left : List UInt8}
    (reads : readFrame c.inboundEnded c.inbound = .frame payload left) :
    c.step .read = { c with inbound := left }.takePayload payload ∧
      c.response? .read = responseIn? payload := by
  -- The frame is taken, and it is heard as the response that its payload is.
  constructor
  · simp only [step, read, p.reading, reads]
  · simp only [response?, message?, taken?, p.reading, reads, responseIn?, Option.bind_some]

end Open

/-- A run in which the other side has sent some payloads. -/
structure Receiving (capacity : Nat) (events : List Event) (payloads : List (List UInt8)) : Prop where
  smooth : ∀ event ∈ events, event.IsSmooth
  sends : arrived events <+: stream payloads
  accepted : ∀ payload ∈ payloads, payload.length ≤ greatestPayload
  quiet : ∀ payload ∈ payloads, Quiet payload

/-- How far the reader has come: it has taken the first payloads, and has the rest of the bytes left. -/
structure Reads (capacity : Nat) (events : List Event) (taken rest : List (List UInt8)) : Prop where
  stands : Open ((start capacity).run events)
  bytes : arrived events = stream taken ++ ((start capacity).run events).inbound
  begins : ((start capacity).run events).inbound <+: stream rest
  said : (start capacity).responses events = taken.filterMap responseIn?

section Reads

variable {capacity : Nat} {events : List Event} {taken rest : List (List UInt8)}

/-- What arrives in the first part of a run arrives before all else. -/
theorem arrived_append (first second : List Event) :
    arrived (first ++ second) = arrived first ++ arrived second := List.flatMap_append

/-- What arrives with one more event comes behind what had arrived. -/
theorem arrived_concat (events : List Event) (event : Event) :
    arrived (events ++ [event]) = arrived events ++ event.arrived := by
  rw [arrived_append, arrived, arrived, List.flatMap_singleton]

/-- What one more event tells comes behind what had been told. -/
theorem responses_concat (c : Connection) (events : List Event) (event : Event) :
    c.responses (events ++ [event]) =
      c.responses events ++ ((c.run events).response? event).toList := by
  rw [responses_append]
  simp only [responses, List.append_nil]

/-- A read of less than a frame changes nothing. -/
theorem Reads.waits (r : Reads capacity events taken rest)
    (unfinished : readFrame ((start capacity).run events).inboundEnded
      ((start capacity).run events).inbound = .unfinished) :
    Reads capacity (events ++ [.read]) taken rest := by
  -- The connection is the one before, and nothing has arrived.
  obtain ⟨still, silent⟩ := r.stands.step_read_unfinished unfinished
  have after : (start capacity).run (events ++ [.read]) = (start capacity).run events := by
    rw [run_concat, still]
  have same : arrived (events ++ [.read]) = arrived events := by
    rw [arrived_concat]
    exact List.append_nil _
  constructor
  · rw [after]
    exact r.stands
  · rw [same, after]
    exact r.bytes
  · rw [after]
    exact r.begins
  · rw [responses_concat, silent, r.said, Option.toList_none, List.append_nil]

/-- A read of a frame takes the next payload. -/
theorem Reads.takes {payload left : List UInt8} (r : Reads capacity events taken (payload :: rest))
    (quiet : Quiet payload) (whole : ((start capacity).run events).inbound = writeFrame payload ++ left)
    (frame : readFrame ((start capacity).run events).inboundEnded
      ((start capacity).run events).inbound = .frame payload left) :
    Reads capacity (events ++ [.read]) (taken ++ [payload]) rest := by
  -- A quiet payload leaves the connection open, and its frame is gone from what has come in.
  obtain ⟨takes, said⟩ := r.stands.step_read_frame frame
  have opens : Open { (start capacity).run events with inbound := left } :=
    r.stands.congr rfl rfl rfl rfl rfl rfl
  obtain ⟨opens', inbound⟩ := opens.takePayload quiet
  have after : (start capacity).run (events ++ [.read]) =
      ({ (start capacity).run events with inbound := left } : Connection).takePayload payload := by
    rw [run_concat, takes]
  have same : arrived (events ++ [.read]) = arrived events := by
    rw [arrived_concat]
    exact List.append_nil _
  constructor
  · rw [after]
    exact opens'
  · rw [same, after, inbound, r.bytes, whole]
    simp only [stream, List.flatMap_append, List.flatMap_cons, List.flatMap_nil, List.append_nil,
      List.append_assoc]
  · have split : writeFrame payload ++ left <+: writeFrame payload ++ stream rest := whole ▸ r.begins
    rw [after, inbound]
    exact (List.prefix_append_right_inj _).mp split
  · have one : [payload].filterMap responseIn? = (responseIn? payload).toList := by
      rw [List.filterMap_cons, List.filterMap_nil]
      cases responseIn? payload with
      | none => rfl
      | some response => rfl
    rw [responses_concat, said, r.said, List.filterMap_append, one]

/-- Any other smooth event leaves the reader where it is, and puts what arrives behind the bytes. -/
theorem Reads.goesOn {event : Event} (r : Reads capacity events taken rest) (smooth : event.IsSmooth)
    (notRead : event ≠ .read) (sends : arrived (events ++ [event]) <+: stream (taken ++ rest)) :
    Reads capacity (events ++ [event]) taken rest := by
  -- Only a read tells anything, and only an arrival changes the bytes.
  have orderly : Orderly ((start capacity).run events) := (Orderly.start capacity).run events
  obtain ⟨opens, inbound⟩ := r.stands.step_of_not_read orderly smooth notRead
  have silent : ((start capacity).run events).response? event = none := by
    cases event with
    | read => exact absurd rfl notRead
    | _ => rfl
  have bytes : arrived (events ++ [event]) =
      stream taken ++ (((start capacity).run events).inbound ++ event.arrived) := by
    rw [arrived_concat, r.bytes, List.append_assoc]
  constructor
  · rw [run_concat]
    exact opens
  · rw [run_concat, inbound, bytes]
  · rw [bytes, stream, stream, List.flatMap_append] at sends
    rw [run_concat, inbound]
    exact (List.prefix_append_right_inj _).mp sends
  · rw [responses_concat, silent, r.said, Option.toList_none, List.append_nil]

end Reads

/-- The reader of a smooth run takes one payload after another. -/
theorem Receiving.reads {capacity : Nat} {events : List Event} {payloads : List (List UInt8)}
    (r : Receiving capacity events payloads) :
    ∃ taken rest, payloads = taken ++ rest ∧ Reads capacity events taken rest := by
  -- By induction on the events, from the last one back.
  induction events using List.reverseRecOn with
  | nil => exact ⟨[], payloads, rfl, .start capacity, rfl, List.nil_prefix, rfl⟩
  | append_singleton events event ih =>
    have fewer : arrived events <+: stream payloads := by
      refine List.IsPrefix.trans ?_ r.sends
      rw [arrived_concat]
      exact List.prefix_append _ _
    obtain ⟨taken, rest, rfl, before⟩ := ih ⟨fun e member => r.smooth e (List.mem_append_left _ member),
      fewer, r.accepted, r.quiet⟩
    by_cases isRead : event = .read
    · subst isRead
      -- The bytes begin with the rest of the payloads, so a frame that is whole is the next of them.
      rcases before.stands.readsOn before.begins
        fun payload member => r.accepted payload (List.mem_append_right _ member) with
        ⟨unfinished, _⟩ | ⟨payload, more, left, rfl, whole, frame⟩
      · exact ⟨taken, rest, rfl, before.waits unfinished⟩
      · have quiet : Quiet payload := r.quiet payload (by simp)
        exact ⟨taken ++ [payload], more, by simp, before.takes quiet whole frame⟩
    · exact ⟨taken, rest, rfl, before.goesOn (r.smooth event (by simp)) isRead r.sends⟩

end Connection

end TemplateFacts.Wire
