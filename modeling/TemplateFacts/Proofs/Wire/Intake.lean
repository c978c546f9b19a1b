import TemplateFacts.Proofs.Wire.Smooth

/-!
What arrives and what is done: a frame is cut off the stream in the same way whatever follows it, and
nothing but the reader looks at the bytes that have arrived. So it makes no difference to a run in how
many pieces its bytes arrive, as long as the same things are done in the same order.
-/

namespace TemplateFacts.Wire

section Frames

variable {ended : Bool} {headers : Headers} {line bytes payload rest : List UInt8} {fault : FrameFault}

/-- The bytes are a frame of the payload, whatever follows them. -/
def Frames (frame payload : List UInt8) : Prop :=
  ∀ ended more, readFrame ended (frame ++ more) = .frame payload more

/-- A payload is cut off in the same way whatever follows it. -/
theorem readPayload_frames {length : Option Nat}
    (reads : readPayload ended length bytes = .frame payload rest) :
    ∃ front, bytes = front ++ rest ∧
      ∀ ended more, readPayload ended length (front ++ more) = .frame payload more := by
  -- A payload is there only if its length is known, allowed and reached.
  unfold readPayload at reads
  cases length with
  | none => cases reads
  | some n =>
    dsimp only at reads
    split at reads
    · cases reads
    · rename_i small
      split at reads
      · rename_i enough
        cases reads
        refine ⟨bytes.take n, (List.take_append_drop n bytes).symm, fun ended more => ?_⟩
        -- What is in front is the payload itself, so that nothing behind it is looked at.
        have whole : (bytes.take n).length = n := List.length_take_of_le enough
        have within : n ≤ (bytes.take n ++ more).length := by
          rw [List.length_append, whole]
          exact Nat.le_add_right _ _
        rw [readPayload]
        simp only [small, within, if_false, if_true, List.take_append_of_le_length (Nat.le_of_eq whole.symm),
          List.drop_append_of_le_length (Nat.le_of_eq whole.symm), List.take_take, Nat.min_self]
        rw [List.drop_of_length_le (Nat.le_of_eq whole), List.nil_append]
      · split at reads <;> cases reads

/-- A frame is cut off in the same way whatever follows it, unless it needs the end of the stream. -/
theorem readHeaders_frames (reads : readHeaders ended headers line bytes = .frame payload rest)
    (goesOn : ended = false ∨ rest ≠ []) :
    ∃ front, bytes = front ++ rest ∧
      ∀ ended more, readHeaders ended headers line (front ++ more) = .frame payload more := by
  -- By induction on the bytes: only a blank line that the stream ends in needs the end.
  induction bytes generalizing headers line with
  | nil =>
    rw [readHeaders] at reads
    split at reads
    · cases reads
    · rename_i isEnd
      split at reads
      · split at reads <;> cases reads
      · split at reads
        · cases reads
        · split at reads
          · -- The frame ends with the stream, which does not hold of this one.
            obtain ⟨front, same, _⟩ := readPayload_frames reads
            have none : rest = [] := (List.append_eq_nil_iff.mp same.symm).2
            rcases goesOn with more | more
            · simp [more] at isEnd
            · exact absurd none more
          · cases reads
        · cases reads
  | cons b bytes ih =>
    -- A byte that is taken leaves it to the bytes behind, whether or not they are the last.
    have behind {headers' : Headers} {line' : List UInt8}
        (later : readHeaders ended headers' line' bytes = .frame payload rest)
        (same : ∀ ended more, readHeaders ended headers line (b :: more) =
          readHeaders ended headers' line' more) :
        ∃ front, b :: bytes = front ++ rest ∧
          ∀ ended more, readHeaders ended headers line (front ++ more) = .frame payload more := by
      obtain ⟨front, rfl, reads'⟩ := ih later
      exact ⟨b :: front, rfl, fun ended more => by rw [List.cons_append, same, reads']⟩
    rw [readHeaders] at reads
    split at reads
    · rename_i feed
      split at reads
      · cases reads
      · rename_i blank
        -- A line ends here: a blank one starts the payload, if a header has begun.
        split at reads
        · rename_i begun
          obtain ⟨front, rfl, reads'⟩ := readPayload_frames reads
          refine ⟨b :: front, rfl, fun ended more => ?_⟩
          rw [List.cons_append, readHeaders]
          simp only [feed, blank, begun, if_true, reads']
        · rename_i fresh
          exact behind reads fun ended more => by
            rw [readHeaders]
            simp only [feed, blank, fresh, if_true, Bool.false_eq_true, if_false]
      · rename_i n told
        exact behind reads fun ended more => by
          rw [readHeaders]
          simp only [feed, told, if_true]
      · rename_i told
        exact behind reads fun ended more => by
          rw [readHeaders]
          simp only [feed, told, if_true]
    · -- The byte belongs to the line.
      rename_i other
      exact behind reads fun ended more => by
        rw [readHeaders]
        simp only [other, Bool.false_eq_true, if_false]

/-- What is read as a frame is a frame whatever follows, unless it needs the end of the stream. -/
theorem frames_of_readFrame (reads : readFrame ended bytes = .frame payload rest)
    (goesOn : ended = false ∨ rest ≠ []) : ∃ front, bytes = front ++ rest ∧ Frames front payload :=
  readHeaders_frames reads goesOn

/-- A fault of a payload is found in the same way whatever follows it. -/
theorem readPayload_faulty {length : Option Nat} (faulty : readPayload false length bytes = .faulty fault)
    (ended : Bool) (more : List UInt8) : readPayload ended length (bytes ++ more) = .faulty fault := by
  -- It is found in the length alone, as the stream goes on.
  unfold readPayload at faulty ⊢
  cases length with
  | none => exact faulty
  | some n =>
    dsimp only at faulty ⊢
    split at faulty
    · rename_i large
      rw [if_pos large]
      exact faulty
    · split at faulty <;> cases faulty

/-- A fault is found in the same way whatever follows it. -/
theorem readHeaders_faulty (faulty : readHeaders false headers line bytes = .faulty fault)
    (ended : Bool) (more : List UInt8) :
    readHeaders ended headers line (bytes ++ more) = .faulty fault := by
  -- By induction on the bytes, with the headers and the line that are read so far.
  induction bytes generalizing headers line with
  | nil => cases faulty
  | cons b bytes ih =>
    rw [List.cons_append]
    rw [readHeaders] at faulty ⊢
    split at faulty
    · rename_i feed
      rw [if_pos feed]
      split at faulty
      · -- The line is no header.
        exact faulty
      · split at faulty
        · rename_i begun
          rw [if_pos begun]
          -- The payload begins, and its length is refused before its bytes are looked at.
          exact readPayload_faulty faulty ended more
        · rename_i fresh
          rw [if_neg fresh]
          exact ih faulty
      · exact ih faulty
      · exact ih faulty
    · rename_i other
      rw [if_neg other]
      exact ih faulty

/-- A stream that goes on has no end to be read. -/
theorem readHeaders_ne_ended : readHeaders false headers line bytes ≠ .ended := by
  -- By induction on the bytes: only their end ends a stream.
  induction bytes generalizing headers line with
  | nil => intro same; cases same
  | cons b bytes ih =>
    rw [readHeaders]
    split
    · split
      · intro same; cases same
      · split
        · unfold readPayload
          grind
        · exact ih
      · exact ih
      · exact ih
    · exact ih

end Frames

/-- Whether the event ends the stream of bytes that arrive. -/
def Event.ends : Event → Bool
  | .endInbound => true
  | .hangUp => true
  | _ => false

namespace Connection

variable {c : Connection} {event : Event} {events : List Event} {bytes : List UInt8}

/-- The connection with other bytes arrived and not read. -/
def holding (c : Connection) (bytes : List UInt8) : Connection := { c with inbound := bytes }

@[simp] theorem holding_inbound (c : Connection) : c.holding c.inbound = c := rfl
@[simp] theorem inbound_holding : (c.holding bytes).inbound = bytes := rfl
@[simp] theorem calls_holding : (c.holding bytes).calls = c.calls := rfl
@[simp] theorem stageOf?_holding (id : Nat) : (c.holding bytes).stageOf? id = c.stageOf? id := rfl
@[simp] theorem table_holding : (c.holding bytes).table = c.table := rfl
@[simp] theorem holder_holding : (c.holding bytes).holder = c.holder := rfl
@[simp] theorem line_holding : (c.holding bytes).line = c.line := rfl
@[simp] theorem closings_holding : (c.holding bytes).closings = c.closings := rfl
@[simp] theorem outbound_holding : (c.holding bytes).outbound = c.outbound := rfl
@[simp] theorem capacity_holding : (c.holding bytes).capacity = c.capacity := rfl
@[simp] theorem peerGone_holding : (c.holding bytes).peerGone = c.peerGone := rfl
@[simp] theorem shut_holding : (c.holding bytes).shut = c.shut := rfl
@[simp] theorem inboundEnded_holding : (c.holding bytes).inboundEnded = c.inboundEnded := rfl
@[simp] theorem reader_holding : (c.holding bytes).reader = c.reader := rfl
@[simp] theorem holding_holding (more : List UInt8) :
    (c.holding bytes).holding more = c.holding more := rfl

/-- Nobody but the reader looks at the bytes that have arrived. -/
theorem step_holding (c : Connection) (bytes : List UInt8) (notRead : event ≠ .read)
    (notArrive : ∀ bytes, event ≠ .arrive bytes) :
    (c.holding bytes).step event = (c.step event).holding bytes := by
  -- Every case decides by the same parts of the state on both sides.
  cases event with
  | read => exact absurd rfl notRead
  | arrive bytes => exact absurd rfl (notArrive bytes)
  | issue request => rfl
  | endInbound => rfl
  | deliver count => rfl
  | hangUp => rfl
  | close => rfl
  | register id =>
    by_cases fresh : c.stageOf? id = some .fresh
    · cases closed : c.table.closed <;>
        simp only [step, register, stageOf?_holding, table_holding, fresh, closed, Bool.false_eq_true,
          if_true, if_false] <;> rfl
    · simp only [step, register, stageOf?_holding, fresh, if_false]
  | queue id =>
    by_cases registered : c.stageOf? id = some .registered
    · simp only [step, queue, stageOf?_holding, registered, if_true]
      rfl
    · simp only [step, queue, stageOf?_holding, registered, if_false]
  | grant =>
    simp only [step, grant, holder_holding, line_holding, calls_holding, reader_holding]
    split
    · split <;> rfl
    · split <;> rfl
    · rfl
    · rfl
  | write count =>
    cases held : c.holder with
    | none => simp only [step, write, holder_holding, held]
    | some hold =>
      obtain ⟨writer, left⟩ := hold
      cases stuck : c.peerGone || c.shut
      · cases whole : (left.drop (min count (c.capacity - c.outbound.length))).isEmpty <;>
          simp only [step, write, holder_holding, held, peerGone_holding, shut_holding, stuck,
            outbound_holding, capacity_holding, whole, Bool.false_eq_true, if_false, if_true]
        · rfl
        · cases writer <;> rfl
      · simp only [step, write, holder_holding, held, peerGone_holding, shut_holding, stuck, if_true]
  | failWrite fault =>
    simp only [step, failWrite, holder_holding]
    split <;> rfl
  | finish id =>
    simp only [step, finish, calls_holding]
    split <;> rfl
  | abandon id =>
    simp only [step, abandon, stageOf?_holding]
    split <;> rfl
  | failRead =>
    simp only [step, failRead, reader_holding]
    split <;> rfl
  | failShut fault =>
    simp only [step, failShut, holder_holding, line_holding]
    split <;> rfl
  | giveUp index =>
    by_cases waits : c.closings[index]? = some .waiting
    · simp only [step, giveUp, closings_holding, waits, if_true]
      rfl
    · simp only [step, giveUp, closings_holding, waits, if_false]

/-- The reader does the same with a payload whatever has arrived behind it. -/
theorem takePayload_holding (c : Connection) (bytes payload : List UInt8) :
    (c.holding bytes).takePayload payload = (c.takePayload payload).holding bytes := by
  -- No branch looks at the bytes that are still to be read.
  unfold takePayload
  split
  · unfold takeMessage
    split
    · rfl
    · rfl
    · split <;> rfl
  · rfl

/-- Nothing but the reader takes bytes away, and only arrivals add some. -/
theorem inbound_step (c : Connection) (notRead : event ≠ .read)
    (notArrive : ∀ bytes, event ≠ .arrive bytes) : (c.step event).inbound = c.inbound := by
  -- A step that neither reads nor receives is the same whatever is still to be read.
  have same := step_holding c c.inbound notRead notArrive
  rw [holding_inbound] at same
  rw [same, inbound_holding]

@[simp] theorem inboundEnded_takePayload (c : Connection) (payload : List UInt8) :
    (c.takePayload payload).inboundEnded = c.inboundEnded := by
  -- Taking a payload fills slots or queues a refusal.
  rcases c.takePayload_cases payload with same | ⟨test, reply, same⟩ | ⟨id, method, same⟩
  · rw [same]
  · rw [same]
    rfl
  · rw [same]

@[simp] theorem inbound_takePayload (c : Connection) (payload : List UInt8) :
    (c.takePayload payload).inbound = c.inbound := by
  -- No branch looks at the bytes that are still to be read.
  have same := takePayload_holding c c.inbound payload
  rw [holding_inbound] at same
  rw [same, inbound_holding]

/-- Only the end of the stream and the loss of the other side end the stream. -/
theorem inboundEnded_step (c : Connection) (event : Event) :
    (c.step event).inboundEnded = (c.inboundEnded || event.ends) := by
  have does := does_step c event
  -- By what the event does: all that is neither of the two leaves the stream open.
  generalize c.step event = d at does
  have kept (same : d.inboundEnded = c.inboundEnded) (goesOn : event.ends = false) :
      d.inboundEnded = (c.inboundEnded || event.ends) := by
    rw [same, goesOn, Bool.or_false]
  cases does with
  | nothing event idles =>
    cases event with
    | endInbound | hangUp => exact idles.elim
    | _ => exact kept rfl rfl
  | inboundEnded => exact (Bool.or_true _).symm
  | hungUp => exact (Bool.or_true _).symm
  | wroteAll count writer => cases writer <;> exact kept rfl rfl
  | took payload rest => exact kept (inboundEnded_takePayload { c with inbound := rest } payload) rfl
  | _ => exact kept rfl rfl

/-- A frame that is there is cut off, and its payload is taken. -/
theorem step_read_of_frame {payload rest : List UInt8} (reading : c.reader = .reading)
    (found : readFrame c.inboundEnded c.inbound = .frame payload rest) :
    c.step .read = (c.holding rest).takePayload payload := by
  show c.read = _
  -- The reader does what it finds, and it finds the frame.
  unfold read
  split
  · split
    all_goals
      rename_i other
      cases found.symm.trans other
    rfl
  · rename_i notReading
    exact absurd reading notReading

/-- The reader takes no bytes where it finds no frame. -/
theorem inbound_read_of_none (none : c.reader = .reading → ∀ payload rest,
    readFrame c.inboundEnded c.inbound ≠ .frame payload rest) : (c.step .read).inbound = c.inbound := by
  show c.read.inbound = _
  -- Of all that the reader can find, only a frame takes bytes.
  unfold read
  split
  · rename_i reading
    split
    · rfl
    · rename_i payload rest found
      exact absurd found (none reading payload rest)
    · rfl
    · split <;> rfl
  · rfl

/-- A stream that has ended does not go on. -/
theorem ended_of_ended (ended : c.inboundEnded = true) (event : Event) :
    (c.step event).inboundEnded = true := by
  rw [inboundEnded_step, ended, Bool.true_or]

/-- The bytes that an event adds to the stream: nothing arrives behind the end. -/
def arriving (c : Connection) : Event → List UInt8
  | .arrive bytes => if c.inboundEnded then [] else bytes
  | _ => []

/-- What arrives is put behind what is there. -/
theorem step_arrive (c : Connection) (bytes : List UInt8) :
    c.step (.arrive bytes) = c.holding (c.inbound ++ c.arriving (.arrive bytes)) := by
  -- Behind the end nothing arrives any more.
  show (if c.inboundEnded then c else c.holding (c.inbound ++ bytes)) =
    c.holding (c.inbound ++ if c.inboundEnded then [] else bytes)
  split
  · rw [List.append_nil, holding_inbound]
  · rfl

/-- The stream of bytes that arrives in a run, up to its end. -/
def intake (c : Connection) : List Event → List UInt8
  | [] => []
  | event :: later => c.arriving event ++ (c.step event).intake later

/-- Whether the event does more than to bring bytes, or to look for a frame that is not there yet. -/
def IsDeed (c : Connection) : Event → Prop
  | .arrive _ => False
  | .read => c.reader = .reading → readFrame c.inboundEnded c.inbound ≠ .unfinished
  | _ => True

instance (c : Connection) (event : Event) : Decidable (c.IsDeed event) := by
  cases event <;> unfold IsDeed <;> infer_instance

/-- What is done in a run, whenever its bytes arrive. -/
def deeds (c : Connection) : List Event → List Event
  | [] => []
  | event :: later =>
    if c.IsDeed event then event :: (c.step event).deeds later else (c.step event).deeds later

theorem intake_append (c : Connection) (first second : List Event) :
    c.intake (first ++ second) = c.intake first ++ (c.run first).intake second := by
  -- What the later events bring goes to the connection that the first ones left.
  induction first generalizing c with
  | nil => rfl
  | cons event first ih =>
    simp only [List.cons_append, intake, List.append_assoc, ih]
    rfl

/-- A stream that has ended brings nothing. -/
theorem intake_of_ended (ended : c.inboundEnded = true) (events : List Event) : c.intake events = [] := by
  -- The end is kept by every event, and behind it nothing is taken in.
  induction events generalizing c with
  | nil => rfl
  | cons event events ih =>
    rw [intake, ih (ended_of_ended ended event), List.append_nil]
    cases event <;> simp only [arriving, ended, if_true]

/-- What the reader finds, it finds as well with more bytes behind it. -/
theorem read_holding {more : List UInt8} (deed : c.IsDeed .read)
    (goesOn : c.inboundEnded = true → more = []) :
    (c.holding (c.inbound ++ more)).step .read =
      (c.step .read).holding ((c.step .read).inbound ++ more) := by
  -- By what the reader is at, and then by what it finds.
  cases reading : c.reader with
  | refusing frame => simp only [step, read, reader_holding, reading]
  | ended => simp only [step, read, reader_holding, reading]
  | reading =>
    cases ended : c.inboundEnded with
    | true =>
      -- Nothing comes behind the end.
      rw [goesOn ended, List.append_nil, List.append_nil, holding_inbound, holding_inbound]
    | false =>
      cases found : readFrame c.inboundEnded c.inbound with
      | unfinished => exact absurd found (deed reading)
      | ended =>
        rw [ended] at found
        exact absurd found readHeaders_ne_ended
      | frame payload rest =>
        -- The frame is cut off in the same way, and the rest of it goes on behind.
        obtain ⟨front, same, frames⟩ := frames_of_readFrame found (.inl ended)
        have reads : readFrame c.inboundEnded (c.inbound ++ more) = .frame payload (rest ++ more) := by
          rw [same, List.append_assoc]
          exact frames _ _
        rw [step_read_of_frame reading found, inbound_takePayload, inbound_holding, ← takePayload_holding,
          holding_holding]
        exact step_read_of_frame reading reads
      | faulty fault =>
        -- A fault is found in the same way.
        have reads : readFrame c.inboundEnded (c.inbound ++ more) = .faulty fault := by
          rw [ended] at found
          exact readHeaders_faulty found _ more
        simp only [step, read, reader_holding, inboundEnded_holding, inbound_holding, reading, reads, found]
        split <;> rfl

/--
A run ends as if all its bytes had arrived at once before anything was done: all that counts is the
stream as a whole, and what is done in which order.
-/
theorem run_eq_deeds (c : Connection) (events : List Event) :
    c.run events = (c.holding (c.inbound ++ c.intake events)).run (c.deeds events) := by
  -- By induction on the events, each of which does the same with the later bytes there already.
  induction events generalizing c with
  | nil => simp only [intake, List.append_nil, holding_inbound, deeds]
  | cons event events ih =>
    show (c.step event).run events = _
    rw [ih, intake, deeds]
    by_cases deed : c.IsDeed event
    · -- What the event takes is there now, and what comes later is read later.
      rw [if_pos deed]
      show _ = ((c.holding _).step event).run _
      congr 1
      by_cases isRead : event = .read
      · subst isRead
        exact (read_holding deed fun ended => intake_of_ended (ended_of_ended ended .read) events).symm
      · have notArrive (bytes : List UInt8) : event ≠ .arrive bytes := by
          rintro rfl
          exact deed
        have nothing : c.arriving event = [] := by
          cases event with
          | arrive bytes => exact absurd rfl (notArrive bytes)
          | _ => rfl
        rw [step_holding c _ isRead notArrive, inbound_step c isRead notArrive, nothing, List.nil_append]
    · -- An event that takes nothing only adds to what is held, or finds no whole frame.
      rw [if_neg deed]
      congr 1
      cases event with
      | arrive bytes => rw [step_arrive, inbound_holding, holding_holding, List.append_assoc]
      | read =>
        obtain ⟨reading, unfinished⟩ : c.reader = .reading ∧
            readFrame c.inboundEnded c.inbound = .unfinished := by
          simpa [IsDeed] using deed
        have same : c.step .read = c := by simp only [step, read, reading, unfinished]
        rw [same]
        rfl
      | _ => exact absurd trivial deed

end Connection

end TemplateFacts.Wire
