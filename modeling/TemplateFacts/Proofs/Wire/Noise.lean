import TemplateFacts.Proofs.Wire.Intake

/-!
Noise: frames that the reader takes and that change nothing. A run ends in the same way without them,
wherever they stand in the stream and in however many pieces they arrive.
-/

namespace TemplateFacts.Wire

section Cut

variable {first last : Nat}

/-- The bytes without those between two places. -/
def cutOut (first last : Nat) (bytes : List UInt8) : List UInt8 := bytes.take first ++ bytes.drop last

/-- Bytes that come in two pieces are cut piece by piece. -/
theorem cutOut_append (ordered : first ≤ last) (bytes more : List UInt8) :
    cutOut first last (bytes ++ more) =
      cutOut first last bytes ++ cutOut (first - bytes.length) (last - bytes.length) more := by
  -- Either nothing is left of the first piece behind the cut, or the second one begins behind it.
  rcases Nat.le_total bytes.length last with short | long
  · simp only [cutOut, List.take_append, List.drop_append, List.drop_of_length_le short, List.nil_append,
      List.append_nil, List.append_assoc]
  · have whole : first - bytes.length = 0 := by omega
    simp only [cutOut, List.take_append, List.drop_append, whole, List.take_zero, List.nil_append,
      List.append_nil, List.append_assoc]

/-- What stands before the cut stays. -/
theorem cutOut_behind (front bytes : List UInt8) :
    cutOut (front.length + first) (front.length + last) (front ++ bytes) =
      front ++ cutOut first last bytes := by
  simp only [cutOut, List.take_length_add_append, List.drop_length_add_append, List.append_assoc]

/-- The stretch between two places is cut out as a whole. -/
theorem cutOut_middle (front cut rest : List UInt8) :
    cutOut front.length (front.length + cut.length) (front ++ (cut ++ rest)) = front ++ rest := by
  -- The front lies before the cut and the rest behind it.
  have behind : cutOut (front.length + 0) (front.length + cut.length) (front ++ (cut ++ rest)) =
      front ++ cutOut 0 cut.length (cut ++ rest) := cutOut_behind front (cut ++ rest)
  rw [Nat.add_zero] at behind
  rw [behind, cutOut, List.take_zero, List.nil_append, List.drop_left]

/-- The events with the bytes between two places of the stream taken out of what arrives. -/
def removeBytes (first last : Nat) : List Event → List Event
  | [] => []
  | .arrive bytes :: later =>
    .arrive (cutOut first last bytes) :: removeBytes (first - bytes.length) (last - bytes.length) later
  | event :: later => event :: removeBytes first last later

theorem removeBytes_single {event : Event} (notArrive : ∀ bytes, event ≠ .arrive bytes) :
    removeBytes first last [event] = [event] := by
  -- Only an arrival carries bytes.
  rw [removeBytes]
  · rfl
  · intro bytes same
    exact notArrive bytes same

theorem removeBytes_append (first last : Nat) (events later : List Event) :
    removeBytes first last (events ++ later) =
      removeBytes first last events ++
        removeBytes (first - (arrived events).length) (last - (arrived events).length) later := by
  -- By induction on the events, each of which counts for the bytes that it brings.
  induction events generalizing first last with
  | nil => rfl
  | cons event events ih =>
    cases event with
    | arrive bytes =>
      simp only [List.cons_append, removeBytes, ih, arrived, List.flatMap_cons, Event.arrived,
        List.length_append, Nat.sub_sub]
    | _ =>
      simp only [List.cons_append, removeBytes, ih, arrived, List.flatMap_cons, Event.arrived,
        List.nil_append]

end Cut

/-- The bytes are frames that stand side by side. -/
inductive Whole : List UInt8 → Prop
  | nil : Whole []
  | cons {frame payload later : List UInt8} (frames : Frames frame payload) (whole : Whole later) :
      Whole (frame ++ later)

section Reading

variable {ended atEnd : Bool} {count : Nat} {bytes more front cut payload rest left : List UInt8}
  {payloads : List (List UInt8)}

/-- Frames that are read before another byte are whole. -/
theorem whole_of_readMany (reads : readMany ended count bytes = some (payloads, left))
    (goesOn : left ≠ []) : ∃ front, bytes = front ++ left ∧ Whole front := by
  -- By induction on the frames, each of which is whole as the byte behind it shows.
  induction count generalizing bytes payloads with
  | zero =>
    cases reads
    exact ⟨[], rfl, .nil⟩
  | succ count ih =>
    rw [readMany] at reads
    split at reads
    · rename_i payload rest frame
      obtain ⟨⟨later, left'⟩, reads', same⟩ := Option.map_eq_some_iff.mp reads
      cases same
      obtain ⟨front, rfl, whole⟩ := ih reads'
      obtain ⟨first, rfl, frames⟩ := frames_of_readFrame frame (.inr (by simp [goesOn]))
      exact ⟨first ++ front, (List.append_assoc ..).symm, .cons frames whole⟩
    · cases reads

/-- What is left behind a frame is the end of what was there. -/
theorem split_of_frame (frame : readFrame ended bytes = .frame payload rest) :
    ∃ front, bytes = front ++ rest := by
  -- With something left the frame ends before it; with nothing left the front is everything.
  by_cases goesOn : rest = []
  · exact ⟨bytes, by rw [goesOn, List.append_nil]⟩
  · obtain ⟨front, same, _⟩ := frames_of_readFrame frame (.inr goesOn)
    exact ⟨front, same⟩

/-- A frame takes a byte at least. -/
theorem ne_nil_of_frame (frame : readFrame ended (cut ++ rest) = .frame payload rest) : cut ≠ [] := by
  -- A frame is never read out of nothing.
  rintro rfl
  exact absurd (readFrame_length_lt frame) (Nat.lt_irrefl _)

/--
Where whole frames stand before another frame, a reader that has seen some part of them finds no end
and no fault. If it has to wait, it would wait as well without the last frame.
-/
theorem reads_or_waits (whole : Whole front) (frame : readFrame atEnd (cut ++ rest) = .frame payload rest)
    (holds : bytes ++ more = front ++ (cut ++ rest)) (goesOn : ended = true → more = [] ∧ atEnd = true) :
    (∃ payload left, readFrame ended bytes = .frame payload left) ∨
      readFrame ended bytes = .unfinished ∧
        readFrame ended (cutOut front.length (front.length + cut.length) bytes) = .unfinished := by
  -- The whole stream begins with a frame in any case.
  have begins : ∃ payload left, readFrame atEnd (front ++ (cut ++ rest)) = .frame payload left := by
    cases whole with
    | nil => exact ⟨payload, rest, frame⟩
    | cons frames later => exact ⟨_, _, by rw [List.append_assoc]; exact frames _ _⟩
  obtain ⟨first, left, begins⟩ := begins
  cases goes : ended with
  | true =>
    obtain ⟨rfl, rfl⟩ := goesOn goes
    rw [List.append_nil] at holds
    exact .inl ⟨first, left, by rw [holds]; exact begins⟩
  | false =>
    -- What the stream begins with is seen as soon as as many bytes have come.
    have seen {part behind : List UInt8} (same : front ++ (cut ++ rest) = part ++ behind)
        (long : part.length ≤ bytes.length) : ∃ behind, bytes = part ++ behind := by
      have inside : part <+: bytes ++ more := ⟨behind, by rw [← same, holds]⟩
      obtain ⟨behind, same⟩ := List.prefix_of_prefix_length_le inside (List.prefix_append _ _) long
      exact ⟨behind, same.symm⟩
    cases found : readFrame false bytes with
    | frame payload left => exact .inl ⟨payload, left, rfl⟩
    | ended => exact absurd found readHeaders_ne_ended
    | faulty fault =>
      -- A fault stays a fault when more bytes come, and the stream begins with a frame.
      have again : readFrame atEnd (bytes ++ more) = .faulty fault := readHeaders_faulty found _ _
      rw [holds, begins] at again
      cases again
    | unfinished =>
      refine .inr ⟨rfl, ?_⟩
      cases whole with
      | nil =>
        -- Nothing has been seen behind the frame, and so nothing is left to be read.
        have short : bytes.length ≤ cut.length := by
          by_contra long
          rw [not_le] at long
          obtain ⟨behind, rfl⟩ := seen (List.nil_append _) (Nat.le_of_lt long)
          have more' : rest ≠ [] := by
            rintro rfl
            have lengths := congrArg List.length holds
            simp only [List.nil_append, List.length_append, List.length_nil] at lengths long
            omega
          obtain ⟨first, same, frames⟩ := frames_of_readFrame frame (.inr more')
          obtain rfl := List.append_cancel_right same
          cases found.symm.trans (frames false behind)
        simp only [cutOut, List.length_nil, List.take_zero, Nat.zero_add, List.drop_of_length_le short,
          List.append_nil]
        rfl
      | cons frames later =>
        -- Not even the first frame has been seen as a whole.
        rename_i first payload later
        have short : bytes.length ≤ first.length := by
          by_contra long
          rw [not_le] at long
          obtain ⟨behind, rfl⟩ := seen (List.append_assoc _ _ _) (Nat.le_of_lt long)
          cases found.symm.trans (frames false behind)
        rw [cutOut, List.take_of_length_le (by rw [List.length_append]; omega),
          List.drop_of_length_le (by rw [List.length_append]; omega), List.append_nil]
        exact found

end Reading

namespace Connection

variable {c : Connection} {payload : List UInt8}

/-- The payload is none that concerns a request: it is no message, or the message asks for nothing and
answers nobody who waits. -/
inductive Noise (c : Connection) (payload : List UInt8) : Prop where
  | illegible (fault : Json.Fault) (parsed : Message.ofPayload payload = .error fault)
  /-- It has neither an id nor a method. -/
  | empty (m : Message) (parsed : Message.ofPayload payload = .ok m) (noId : m.id = none)
      (noMethod : m.method = none)
  | notification (m : Message) (parsed : Message.ofPayload payload = .ok m) (noId : m.id = none)
      (method : String) (isMethod : m.method = some method)
  /-- It is a response whose id is no number. -/
  | unnumbered (m : Message) (parsed : Message.ofPayload payload = .ok m) (id : Json)
      (isId : m.id = some id) (notNull : id ≠ .null) (noMethod : m.method = none)
      (noNumber : numberOf? id = none)
  /-- It is a response to no request in the table. -/
  | unawaited (m : Message) (parsed : Message.ofPayload payload = .ok m) (id : Json)
      (isId : m.id = some id) (noMethod : m.method = none) (number : Nat)
      (isNumber : numberOf? id = some number)
      (unawaited : ∀ waiting ∈ c.table.waiters, numberAt waiting ≠ number)

/-- A message with an id that is not null and without a method is dealt with as a response. -/
theorem takeMessage_of_named {m : Message} {id : Json} (isId : m.id = some id) (notNull : id ≠ .null)
    (noMethod : m.method = none) (c : Connection) :
    c.takeMessage m =
      match responseOf? m with
      | some (number, reply) => c.replyTo number reply
      | none => c := by
  -- Neither of the other two branches can be taken.
  unfold takeMessage
  split
  · rename_i isNull _
    exact absurd (Option.some.inj (isId.symm.trans isNull)) notNull
  · rename_i isMethod
    rw [noMethod] at isMethod
    cases isMethod
  · rfl

/-- The reader passes noise over. -/
theorem Noise.takePayload (noise : c.Noise payload) : c.takePayload payload = c := by
  -- Each kind of noise comes to nothing in its own branch.
  cases noise with
  | illegible fault parsed => simp only [Connection.takePayload, parsed]
  | empty m parsed noId noMethod =>
    simp only [Connection.takePayload, parsed, takeMessage, noId, noMethod, responseOf?]
  | notification m parsed noId method isMethod =>
    simp only [Connection.takePayload, parsed, takeMessage, noId, isMethod, responseOf?]
  | unnumbered m parsed id isId notNull noMethod noNumber =>
    simp only [Connection.takePayload, parsed, takeMessage_of_named isId notNull noMethod, responseOf?, isId,
      noMethod, noNumber, Option.map_none]
  | unawaited m parsed id isId noMethod number isNumber unawaited =>
    have notNull : id ≠ .null := by
      rintro rfl
      cases isNumber
    simp only [Connection.takePayload, parsed, takeMessage_of_named isId notNull noMethod, responseOf?, isId,
      noMethod, isNumber, Option.map_some]
    refine bring_eq_self c _ _ fun waiting waits => ?_
    rw [beq_eq_false_iff_ne]
    exact unawaited waiting waits

/-- As long as the stream has not ended, what is sent arrives. -/
theorem arriving_eq_arrived (goesOn : c.inboundEnded = false) (event : Event) :
    c.arriving event = event.arrived := by
  -- Before the end everything that arrives is taken in.
  cases event with
  | arrive bytes =>
    rw [arriving, goesOn]
    rfl
  | _ => rfl

/-- As long as the stream has not ended, it holds all that was sent. -/
theorem intake_eq_arrived {events : List Event} (goesOn : (c.run events).inboundEnded = false) :
    c.intake events = arrived events := by
  -- If the inbound goes on at the end, it went on at every event before.
  induction events using List.reverseRecOn with
  | nil => rfl
  | append_singleton events event ih =>
    rw [run_concat, inboundEnded_step, Bool.or_eq_false_iff] at goesOn
    rw [intake_append, ih goesOn.1, intake, intake, arriving_eq_arrived goesOn.1, arrived, arrived,
      List.flatMap_append, List.flatMap_singleton, List.append_nil]

/-- The stream of a run with bytes removed is the stream without them. -/
theorem intake_removeBytes {first last : Nat} (ordered : first ≤ last) {c d : Connection}
    (alike : d.inboundEnded = c.inboundEnded) (events : List Event) :
    d.intake (removeBytes first last events) = cutOut first last (c.intake events) := by
  -- By induction on the events, as long as the stream has not ended.
  induction events generalizing c d first last with
  | nil => simp only [removeBytes, intake, cutOut, List.take_nil, List.drop_nil, List.append_nil]
  | cons event events ih =>
    have next (event' : Event) (same : event'.ends = event.ends) :
        (d.step event').inboundEnded = (c.step event).inboundEnded := by
      rw [inboundEnded_step, inboundEnded_step, alike, same]
    -- Behind the end nothing comes in, with the bytes or without them.
    cases ended : c.inboundEnded with
    | true =>
      rw [intake_of_ended ended, intake_of_ended (alike.trans ended)]
      simp only [cutOut, List.take_nil, List.drop_nil, List.append_nil]
    | false =>
      rw [intake, arriving_eq_arrived ended]
      cases event with
      | arrive bytes =>
        have alike' := next (.arrive (cutOut first last bytes)) rfl
        rw [removeBytes, intake, arriving_eq_arrived (alike.trans ended), Event.arrived, Event.arrived,
          cutOut_append ordered, ih (Nat.sub_le_sub_right ordered _) alike']
      | _ =>
        -- Other events bring nothing, and nothing is removed from them.
        rw [removeBytes, intake, ih ordered (next _ rfl)]
        · rfl
        · intro bytes same
          cases same

theorem run_single (c : Connection) (event : Event) : c.run [event] = c.step event := rfl

/-- The connection without some of the bytes that have arrived. -/
def without (c : Connection) (first last : Nat) : Connection := c.holding (cutOut first last c.inbound)

section Without

variable {first last : Nat} {event : Event} {front cut rest more payload : List UInt8} {atEnd : Bool}

/-- What arrives for a connection without some bytes, arrives without them. -/
theorem without_arrive (ordered : first ≤ last) (goesOn : c.inboundEnded = false) (bytes : List UInt8) :
    (c.without first last).step
        (.arrive (cutOut (first - c.inbound.length) (last - c.inbound.length) bytes)) =
      (c.step (.arrive bytes)).without first last := by
  -- The cut goes through what is buffered first and then through what arrives.
  rw [step_arrive, step_arrive, arriving_eq_arrived goesOn,
    arriving_eq_arrived (show (c.without first last).inboundEnded = false from goesOn), without, without,
    inbound_holding, inbound_holding, cutOut_append ordered]
  rfl

/-- Nothing arrives behind the end. -/
theorem step_arrive_of_ended (ended : c.inboundEnded = true) (bytes : List UInt8) :
    c.step (.arrive bytes) = c := by
  simp only [step, ended, if_true]

/-- Nobody but the reader sees that bytes are missing. -/
theorem without_step (notRead : event ≠ .read) (notArrive : ∀ bytes, event ≠ .arrive bytes)
    (c : Connection) : (c.without first last).step event = (c.step event).without first last := by
  -- Neither what the event does nor what it leaves depends on the bytes still to be read.
  rw [without, step_holding c _ notRead notArrive, without, inbound_step c notRead notArrive]

/-- The reader takes the frame in front of missing bytes as it takes it in front of others. -/
theorem without_take {taken left : List UInt8} (reading : c.reader = .reading)
    (found : readFrame c.inboundEnded c.inbound = .frame taken left)
    (goesOn : c.inboundEnded = false ∨ left ≠ []) :
    ∃ front, Frames front taken ∧ c.inbound = front ++ left ∧ ∀ first last,
      (c.without (front.length + first) (front.length + last)).step .read =
        (c.step .read).without first last := by
  -- The frame ends in front of the missing bytes, and so is read without them.
  obtain ⟨front, same, frames⟩ := frames_of_readFrame found goesOn
  refine ⟨front, frames, same, fun first last => ?_⟩
  have reads : readFrame c.inboundEnded (cutOut (front.length + first) (front.length + last) c.inbound) =
      .frame taken (cutOut first last left) := by
    rw [same, cutOut_behind]
    exact frames _ _
  rw [step_read_of_frame reading found, without, without, inbound_takePayload, inbound_holding,
    ← takePayload_holding, holding_holding]
  exact step_read_of_frame reading reads

/--
The reader does not see that a frame is missing that it does not come to. What it takes is a frame
that stands in front of the missing one.
-/
theorem without_read (whole : Whole front) (frame : readFrame atEnd (cut ++ rest) = .frame payload rest)
    (holds : (c.step .read).inbound ++ more = front ++ (cut ++ rest))
    (goesOn : c.inboundEnded = true → more = [] ∧ atEnd = true) :
    ∃ front', Whole front' ∧ c.inbound ++ more = front' ++ (cut ++ rest) ∧
      (c.without front'.length (front'.length + cut.length)).step .read =
        (c.step .read).without front.length (front.length + cut.length) := by
  -- A read that takes nothing finds nothing without the missing frame either.
  have idle (same : c.step .read = c)
      (same' : (c.without front.length (front.length + cut.length)).step .read =
        c.without front.length (front.length + cut.length)) :
      ∃ front', Whole front' ∧ c.inbound ++ more = front' ++ (cut ++ rest) ∧
        (c.without front'.length (front'.length + cut.length)).step .read =
          (c.step .read).without front.length (front.length + cut.length) := by
    rw [same] at holds ⊢
    exact ⟨front, whole, holds, same'⟩
  cases reading : c.reader with
  | refusing frame =>
    exact idle (by simp only [step, read, reading])
      (by simp only [step, read, without, reader_holding, reading])
  | ended =>
    exact idle (by simp only [step, read, reading])
      (by simp only [step, read, without, reader_holding, reading])
  | reading =>
    have waits (kept : (c.step .read).inbound = c.inbound) :=
      reads_or_waits whole frame (kept ▸ holds) goesOn
    cases found : readFrame c.inboundEnded c.inbound with
    | unfinished =>
      have same : c.step .read = c := by simp only [step, read, reading, found]
      rcases waits (congrArg inbound same) with ⟨_, _, reads⟩ | ⟨_, unfinished⟩
      · cases found.symm.trans reads
      · refine idle same ?_
        simp only [step, read, without, reader_holding, inboundEnded_holding, inbound_holding, reading,
          unfinished]
    | ended =>
      -- The two other readings end the stream, or break it, where a frame is still to come.
      rcases waits (inbound_read_of_none (by simp [found])) with ⟨_, _, reads⟩ | ⟨reads, _⟩ <;>
        cases found.symm.trans reads
    | faulty fault =>
      rcases waits (inbound_read_of_none (by simp [found])) with ⟨_, _, reads⟩ | ⟨reads, _⟩ <;>
        cases found.symm.trans reads
    | frame taken left =>
      rw [step_read_of_frame reading found, inbound_takePayload, inbound_holding] at holds
      -- A stream that has ended still holds the missing frame, so that something is left behind
      -- this one.
      have going : c.inboundEnded = false ∨ left ≠ [] := by
        cases ended : c.inboundEnded with
        | false => exact .inl rfl
        | true =>
          refine .inr ?_
          rintro rfl
          rw [(goesOn ended).1] at holds
          have nothing := (List.append_eq_nil_iff.mp holds.symm).2
          exact ne_nil_of_frame frame (List.append_eq_nil_iff.mp nothing).1
      obtain ⟨first, frames, same, takes⟩ := without_take reading found going
      -- The frame that is read now stood in front before.
      refine ⟨first ++ front, .cons frames whole, ?_, ?_⟩
      · rw [same, List.append_assoc, holds, List.append_assoc]
      · rw [List.length_append, Nat.add_assoc]
        exact takes _ _

/--
Bytes that make up a frame and that the reader has not come to can be removed from what arrives, with
the bytes that have arrived as the only difference.
-/
theorem run_removeBytes (capacity : Nat) (events : List Event) (whole : Whole front)
    (frame : readFrame atEnd (cut ++ rest) = .frame payload rest)
    (holds : ((start capacity).run events).inbound ++ more = front ++ (cut ++ rest))
    (goesOn : ((start capacity).run events).inboundEnded = true → more = [] ∧ atEnd = true)
    (place : first + ((start capacity).run events).inbound.length =
      ((start capacity).intake events).length + front.length) :
    (start capacity).run (removeBytes first (first + cut.length) events) =
      ((start capacity).run events).without front.length (front.length + cut.length) := by
  -- By induction on the events, from the last one back: a frame that is read was in front before.
  induction events using List.reverseRecOn generalizing front more with
  | nil => simp only [removeBytes, run, List.foldl_nil, start, without, cutOut, List.take_nil,
      List.drop_nil, List.append_nil, holding]
  | append_singleton events event ih =>
    rw [run_concat] at holds goesOn place ⊢
    rw [intake_append, intake, intake, List.append_nil] at place
    rw [removeBytes_append, run_append]
    by_cases isArrive : ∃ bytes, event = .arrive bytes
    · obtain ⟨bytes, rfl⟩ := isArrive
      rw [removeBytes, removeBytes, run_single]
      rw [step_arrive] at holds goesOn place
      rw [inbound_holding, List.append_assoc] at holds
      rw [inbound_holding, List.length_append, List.length_append] at place
      rw [inboundEnded_holding] at goesOn
      cases ended : ((start capacity).run events).inboundEnded with
      | true =>
        -- Nothing arrives at a stream that has ended, with the bytes or without them.
        have none : ((start capacity).run events).arriving (.arrive bytes) = [] := by
          rw [arriving, ended]
          rfl
        rw [none, List.nil_append] at holds
        rw [none, List.length_nil] at place
        rw [ih whole holds goesOn (by omega), step_arrive_of_ended ended,
          step_arrive_of_ended (show (without _ _ _).inboundEnded = true from ended)]
      | false =>
        -- What has come in until now tells where in the new bytes the missing ones stand.
        have arrived := intake_eq_arrived ended
        rw [ih whole holds (fun isEnd => by rw [ended] at isEnd; cases isEnd) (by omega), ← arrived,
          ← without_arrive (Nat.le_add_right _ _) ended]
        congr 3 <;> omega
    · have notArrive (bytes : List UInt8) : event ≠ .arrive bytes := fun same => isArrive ⟨bytes, same⟩
      have nothing : ((start capacity).run events).arriving event = [] := by
        cases event with
        | arrive bytes => exact absurd rfl (notArrive bytes)
        | _ => rfl
      have goesOn' (ended : ((start capacity).run events).inboundEnded = true) :
          more = [] ∧ atEnd = true := goesOn (ended_of_ended ended event)
      rw [nothing, List.append_nil] at place
      rw [removeBytes_single notArrive, run_single]
      by_cases isRead : event = .read
      · -- A read takes a frame from the front, both times.
        subst isRead
        obtain ⟨front', whole', holds', same⟩ := without_read whole frame holds goesOn'
        have lengths := congrArg List.length holds
        have lengths' := congrArg List.length holds'
        rw [List.length_append, List.length_append] at lengths lengths'
        rw [ih whole' holds' goesOn' (by omega), same]
      · -- Any other event leaves what has come in as it is.
        have kept := inbound_step ((start capacity).run events) isRead notArrive
        rw [kept] at holds place
        rw [ih whole holds goesOn' place, without_step isRead notArrive]

/-- The reader takes bytes from the front only. -/
theorem inbound_read (c : Connection) : ∃ taken, c.inbound = taken ++ (c.step .read).inbound := by
  -- A read takes a whole frame from the front or leaves the bytes alone.
  by_cases takes : c.reader = .reading ∧
      ∃ payload rest, readFrame c.inboundEnded c.inbound = .frame payload rest
  · obtain ⟨reading, payload, rest, found⟩ := takes
    rw [step_read_of_frame reading found, inbound_takePayload, inbound_holding]
    exact split_of_frame found
  · refine ⟨[], (inbound_read_of_none fun reading payload rest found => ?_).symm⟩
    exact takes ⟨reading, payload, rest, found⟩

/-- What has arrived and is not read is the end of the stream so far. -/
theorem intake_eq_append (capacity : Nat) (events : List Event) :
    ∃ taken, (start capacity).intake events = taken ++ ((start capacity).run events).inbound := by
  -- By induction on the run: only reading takes bytes away, and from the front.
  induction events using List.reverseRecOn with
  | nil => exact ⟨[], rfl⟩
  | append_singleton events event ih =>
    obtain ⟨taken, same⟩ := ih
    rw [intake_append, run_concat, intake, intake, List.append_nil]
    cases event with
    | arrive bytes =>
      exact ⟨taken, by rw [step_arrive, inbound_holding, same, List.append_assoc]⟩
    | read =>
      obtain ⟨more, split⟩ := inbound_read ((start capacity).run events)
      refine ⟨taken ++ more, ?_⟩
      rw [same, List.append_assoc taken more, ← split]
      exact List.append_nil _
    | _ =>
      refine ⟨taken, ?_⟩
      rw [inbound_step _ (by simp) (by simp), same, arriving, List.append_nil]
      intro bytes isArrive
      cases isArrive

/-- A frame that stands behind whole frames and that the reader has not come to makes no difference but
that it is there. -/
theorem run_without_frame (capacity : Nat) (events : List Event) (whole : Whole front)
    (holds : ((start capacity).run events).inbound = front ++ (cut ++ rest))
    (frame : readFrame ((start capacity).run events).inboundEnded (cut ++ rest) = .frame payload rest) :
    ∃ earlier, (start capacity).intake events = earlier ++ (cut ++ rest) ∧
      let shorter := removeBytes earlier.length (earlier.length + cut.length) events
      (start capacity).intake shorter = earlier ++ rest ∧
      (start capacity).run shorter = ((start capacity).run events).holding (front ++ rest) := by
  -- The frame stands behind what was taken and the whole frames in front of it.
  obtain ⟨taken, same⟩ := intake_eq_append capacity events
  have place : (taken ++ front).length + ((start capacity).run events).inbound.length =
      ((start capacity).intake events).length + front.length := by
    rw [same, List.length_append, List.length_append]
    omega
  have all : ((start capacity).run events).inbound ++ [] = front ++ (cut ++ rest) := by
    rw [List.append_nil, holds]
  rw [holds, ← List.append_assoc] at same
  refine ⟨taken ++ front, same, ?_, ?_⟩
  · rw [intake_removeBytes (Nat.le_add_right _ _) rfl, same, cutOut_middle]
  · rw [run_removeBytes capacity events whole frame all (fun ended => ⟨rfl, ended⟩) place, without, holds,
      cutOut_middle]

end Without

/-- Chunks that arrive one after another arrive as what they make up. -/
theorem run_chunks (goesOn : c.inboundEnded = false) (chunks : List (List UInt8)) :
    c.run (chunks.map .arrive) = c.holding (c.inbound ++ chunks.flatten) := by
  -- Chunk after chunk is put behind what is buffered.
  induction chunks generalizing c with
  | nil => simp only [List.map_nil, run, List.foldl_nil, List.flatten_nil, List.append_nil, holding_inbound]
  | cons chunk chunks ih =>
    have arrives : c.step (.arrive chunk) = c.holding (c.inbound ++ chunk) := by
      rw [step_arrive, arriving_eq_arrived goesOn, Event.arrived]
    have goesOn' : (c.holding (c.inbound ++ chunk)).inboundEnded = false := goesOn
    show (c.step (.arrive chunk)).run _ = _
    rw [arrives, ih goesOn', inbound_holding, holding_holding, List.flatten_cons, List.append_assoc]

/--
Noise is invisible. Where the reader takes a frame that is noise, the run without the bytes of the
frame in the stream, in which the reader does not come to it, goes on with the same connection: every
request has the same outcome, the table is the same, and so are all bytes that go out. A frame that
the reader has not come to, whatever it holds, makes no difference but that it is there. And it makes
no difference in which pieces the stream arrives: a run ends as if the stream had arrived, in any other
pieces, before anything was done, so that runs with the same stream that do the same end in the same
way.
-/
theorem noise_is_invisible (capacity : Nat) :
    (∀ before after payload rest,
      let c := (start capacity).run before
      c.reader = .reading → readFrame c.inboundEnded c.inbound = .frame payload rest → c.Noise payload →
        ∃ earlier noise later, c.inbound = noise ++ rest ∧
          (start capacity).intake (before ++ .read :: after) = earlier ++ (noise ++ later) ∧
          let quiet := removeBytes earlier.length (earlier.length + noise.length) before ++ after
          (start capacity).intake quiet = earlier ++ later ∧
          (start capacity).run quiet = (start capacity).run (before ++ .read :: after)) ∧
    (∀ events count payloads bytes payload rest,
      let c := (start capacity).run events
      readMany c.inboundEnded count c.inbound = some (payloads, bytes) →
        readFrame c.inboundEnded bytes = .frame payload rest →
          ∃ earlier front frame, c.inbound = front ++ bytes ∧ bytes = frame ++ rest ∧
            (start capacity).intake events = earlier ++ (frame ++ rest) ∧
            let shorter := removeBytes earlier.length (earlier.length + frame.length) events
            (start capacity).intake shorter = earlier ++ rest ∧
            (start capacity).run shorter = { c with inbound := front ++ rest }) ∧
    (∀ events (chunks : List (List UInt8)), chunks.flatten = (start capacity).intake events →
      (start capacity).run events =
        (start capacity).run (chunks.map .arrive ++ (start capacity).deeds events)) ∧
    ∀ events others, (start capacity).intake others = (start capacity).intake events →
      (start capacity).deeds others = (start capacity).deeds events →
        (start capacity).run others = (start capacity).run events := by
  -- The bytes of an event can be taken in at once, since no other deed looks at when they came.
  have atOnce (events : List Event) : (start capacity).run events =
      ((start capacity).holding ((start capacity).intake events)).run ((start capacity).deeds events) :=
    run_eq_deeds (start capacity) events
  refine ⟨?_, ?_, fun events chunks pieces => ?_, fun events others stream deeds => ?_⟩
  · -- Taking a noisy payload changes nothing but the bytes still to be read.
    intro before after payload rest c reading frame noise
    obtain ⟨cut, split⟩ := split_of_frame frame
    obtain ⟨earlier, stream, stream', quiet⟩ := run_without_frame capacity before .nil
      (by rw [List.nil_append]; exact split) (by rw [← split]; exact frame)
    have taken : c.step .read = c.holding rest := by
      rw [step_read_of_frame reading frame, takePayload_holding, noise.takePayload]
    refine ⟨earlier, cut, rest ++ (c.holding rest).intake after, split, ?_, ?_, ?_⟩
    · rw [intake_append, stream]
      show _ ++ ([] ++ (c.step .read).intake after) = _
      rw [taken, List.nil_append, List.append_assoc, List.append_assoc]
    · rw [intake_append, stream', quiet, List.nil_append, List.append_assoc]
    · rw [run_append, quiet, List.nil_append, run_append]
      show _ = (c.step .read).run after
      rw [taken]
  · -- The frame stands behind other whole frames, so it can be cut out without reading any of them.
    intro events count payloads bytes payload rest c reads frame
    obtain ⟨cut, rfl⟩ := split_of_frame frame
    have goesOn : cut ++ rest ≠ [] := fun none => ne_nil_of_frame frame (List.append_eq_nil_iff.mp none).1
    obtain ⟨front, split, whole⟩ := whole_of_readMany reads goesOn
    obtain ⟨earlier, stream, shorter⟩ := run_without_frame capacity events whole split frame
    exact ⟨earlier, front, cut, split, rfl, stream, shorter⟩
  · rw [atOnce events, run_append, run_chunks rfl, pieces]
    rfl
  · rw [atOnce others, atOnce events, stream, deeds]

/-- The payload of a notification. -/
def loggedPayload : List UInt8 := Utf8.encode (Json.compact (.object [("method", .text "log")]))

/-- The payload of the answer to the first request. -/
def answerPayload : List UInt8 :=
  Utf8.encode (Json.compact (.object [("id", .int 0), ("result", .int 7)]))

/-- A run in which a notification arrives in two pieces before the answer to a request. -/
def loggedRun : List Event :=
  [.issue ⟨"a", .null, .any⟩, .register 0, .queue 0, .grant, .write 4096,
    .arrive ((writeFrame loggedPayload).take 30), .read,
    .arrive ((writeFrame loggedPayload).drop 30 ++ writeFrame answerPayload)]

/-- The request ends with its answer as well when the notification is removed. -/
theorem noise_is_invisible_logged :
    let c := (start 4096).run loggedRun
    c.reader = .reading ∧
      readFrame c.inboundEnded c.inbound = .frame loggedPayload (writeFrame answerPayload) ∧
      c.Noise loggedPayload ∧
      ((start 4096).run (loggedRun ++ [.read, .read, .finish 0])).outcome? 0 = some (.ok (.int 7)) ∧
      ∃ first last, first < last ∧
        ((start 4096).run (removeBytes first last loggedRun ++ [.read, .finish 0])).outcome? 0 =
          some (.ok (.int 7)) := by
  -- A log message is followed by an answer; with its bytes removed the answer is the only frame.
  have reading : ((start 4096).run loggedRun).reader = .reading := by decide +kernel
  have frame : readFrame ((start 4096).run loggedRun).inboundEnded ((start 4096).run loggedRun).inbound =
      .frame loggedPayload (writeFrame answerPayload) := by decide +kernel
  have parsed : (Message.ofPayload loggedPayload).toOption = some ⟨none, some "log", .null, none⟩ := by
    decide +kernel
  have answered : ((start 4096).run (loggedRun ++ [.read, .read, .finish 0])).outcome? 0 =
      some (.ok (.int 7)) := by decide +kernel
  cases said : Message.ofPayload loggedPayload with
  | error fault => rw [said] at parsed; cases parsed
  | ok m =>
    rw [said] at parsed
    obtain rfl := Option.some.inj parsed
    have noise : ((start 4096).run loggedRun).Noise loggedPayload := .notification _ said rfl "log" rfl
    obtain ⟨earlier, cut, later, split, _, _, same⟩ := (noise_is_invisible 4096).1 loggedRun
      [.read, .finish 0] loggedPayload (writeFrame answerPayload) reading frame noise
    refine ⟨reading, frame, noise, answered, earlier.length, earlier.length + cut.length, ?_, ?_⟩
    · rw [split] at frame
      have begun : 0 < cut.length := List.length_pos_of_ne_nil (ne_nil_of_frame frame)
      omega
    · rw [same]
      exact answered

end Connection

end TemplateFacts.Wire
