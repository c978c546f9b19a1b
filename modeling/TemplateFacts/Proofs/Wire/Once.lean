import TemplateFacts.Proofs.Wire.Correlation
import TemplateFacts.Proofs.Wire.Spoken

/-!
Frames are written once: each request that comes to wait for its answer has said its frame once, each
demand of the other side that the reader is through with was refused once, in the order in which the
demands came, and nothing else is ever said.
-/

namespace TemplateFacts.Wire.Connection

variable {c : Connection} {event : Event}

section Said

/-- The whole frame whose last byte is written at an event, with whoever says it. -/
def saidAt (c : Connection) (event : Event) : List (Writer × List UInt8) :=
  -- Only writing says anything.
  match c.holder, (c.step event).holder, event with
  | some (writer, _), none, .write _ => [(writer, (c.frameOf? writer).getD [])]
  | _, _, _ => []

/-- The whole frames that are said in a run, the first one first. -/
def said (c : Connection) : List Event → List (Writer × List UInt8)
  | [] => []
  | event :: events => c.saidAt event ++ (c.step event).said events

theorem said_append (c : Connection) (first second : List Event) :
    c.said (first ++ second) = c.said first ++ (c.run first).said second := by
  -- What the later events say is said by the connection that the first ones left.
  induction first generalizing c with
  | nil => rfl
  | cons event first ih =>
    simp only [List.cons_append, said, List.append_assoc, ih]
    rfl

/-- What is said at an event is the frame of the holder, who frees the writer with it. -/
structure Tells (c : Connection) (event : Event) (writer : Writer) (frame : List UInt8) : Prop where
  isWrite : ∃ count, event = .write count
  holds : c.writer? = some writer
  frames : c.frameOf? writer = some frame
  free : (c.step event).holder = none

/-- At an event nothing is said, or the holder says its frame. -/
theorem saidAt_cases (f : Framed c) (event : Event) :
    c.saidAt event = [] ∨ ∃ writer frame, c.saidAt event = [(writer, frame)] ∧
      c.Tells event writer frame := by
  -- A frame is said by the write that frees its holder.
  unfold saidAt
  split
  · rename_i writer left count held free
    have frames := f writer left held
    refine .inr ⟨writer, _, rfl, ⟨count, rfl⟩, by simp [writer?, held], ?_, free⟩
    rw [frames, Option.getD_some]
  · exact .inl rfl

/-- Whoever frees the writer with a whole frame has said it. -/
theorem Tells.saidAt_eq {writer : Writer} {frame : List UInt8} (tells : c.Tells event writer frame) :
    c.saidAt event = [(writer, frame)] := by
  -- The write frees the holder, so the whole frame of that writer has been said.
  obtain ⟨⟨count, rfl⟩, holds, frames, free⟩ := tells
  obtain ⟨⟨holder, left⟩, held, rfl⟩ := Option.map_eq_some_iff.mp holds
  simp only [saidAt, held, free, frames, Option.getD_some]

/-- Everything is said at one of the events of a run. -/
theorem mem_said (c : Connection) (events : List Event) {speech : Writer × List UInt8}
    (member : speech ∈ c.said events) :
    ∃ first event second, events = first ++ event :: second ∧ speech ∈ (c.run first).saidAt event := by
  -- The speech belongs to one event, before which the earlier ones have run.
  induction events generalizing c with
  | nil => cases member
  | cons event events ih =>
    rcases List.mem_append.mp member with now | later
    · exact ⟨[], event, events, rfl, now⟩
    · obtain ⟨first, event', second, rfl, there⟩ := ih (c.step event) later
      exact ⟨event :: first, event', second, rfl, there⟩

/-- Only the reader and requests say anything, and each request says its own frame. -/
theorem speaker_of_said (capacity : Nat) (events : List Event) {speech : Writer × List UInt8}
    (member : speech ∈ (start capacity).said events) :
    speech.1 = .reader ∨ ∃ id request, speech = (.call id, requestFrame id request) ∧
      ((start capacity).run events).requestOf? id = some request := by
  obtain ⟨first, event, second, rfl, there⟩ := mem_said _ _ member
  -- What is said at the event it is said at is the frame of a writer.
  have f : Framed ((start capacity).run first) := (sent_run_start capacity first).1
  rcases saidAt_cases f event with none | ⟨writer, frame, one, tells⟩
  · rw [none] at there
    cases there
  · rw [one, List.mem_singleton] at there
    subst there
    cases writer with
    | reader => exact .inl rfl
    | closing index => cases tells.frames
    | call id =>
      obtain ⟨request, asks, rfl⟩ := Option.map_eq_some_iff.mp tells.frames
      refine .inr ⟨id, request, rfl, ?_⟩
      rw [run_append]
      -- A request keeps its place from then on.
      exact requestOf?_run asks (event :: second)

/-- The event breaks off no frame: it neither closes the connection nor breaks its writing, and gives
up no request that is writing. -/
def BreaksNothing (c : Connection) (event : Event) : Prop :=
  event.IsCalm ∧ ∀ id, event = .abandon id → c.stageOf? id ≠ some .writing

/-- No event of the run breaks off a frame. -/
def Unbroken (c : Connection) : List Event → Prop
  | [] => True
  | event :: events => c.BreaksNothing event ∧ (c.step event).Unbroken events

/-- A run that breaks nothing off is calm. -/
theorem Unbroken.calm {events : List Event} (unbroken : c.Unbroken events) :
    ∀ event ∈ events, event.IsCalm := by
  -- Being calm is the first half of being unbroken, at each event.
  induction events generalizing c with
  | nil => exact fun event member => by cases member
  | cons first events ih => exact List.forall_mem_cons.mpr ⟨unbroken.1.1, ih unbroken.2⟩

/-- Where nothing is broken off, all turns end with what is said in them. -/
theorem turnAt_of_breaksNothing (o : Orderly c) (whole : c.BreaksNothing event) :
    c.turnAt event = (c.saidAt event).map fun speech => .whole speech.2 := by
  rcases hands_step o event with ⟨same, _, _⟩ | ⟨writer, frame, free, _, _, _⟩ |
    ⟨writer, bytes, left, held, holds, _, _, _⟩ | ⟨count, writer, left, rfl, held, free, _⟩ |
    ⟨writer, left, held, free, _, cause⟩
  · unfold turnAt saidAt
    rw [same]
    cases c.holder <;> rfl
  · simp only [turnAt, saidAt, free, List.map_nil]
  · simp only [turnAt, saidAt, held, holds, List.map_nil]
  · simp only [turnAt, saidAt, held, free, List.map_cons, List.map_nil]
  · -- A turn is cut off only by what the run does not have.
    exfalso
    rcases cause with ⟨id, rfl, rfl⟩ | ⟨fault, rfl⟩ | rfl
    · exact whole.2 id rfl (o.stageOf?_holder held)
    · exact whole.1
    · exact whole.1

/-- Where nothing is broken off, all that is sent is said, up to the frame under way. -/
theorem turns_of_unbroken (o : Orderly c) {events : List Event}
    (unbroken : c.Unbroken events) :
    c.turns events = (c.said events).map fun speech => .whole speech.2 := by
  -- By induction on the events, none of which cuts a turn off.
  induction events generalizing c with
  | nil => rfl
  | cons event events ih =>
    rw [turns, said, List.map_append, turnAt_of_breaksNothing o unbroken.1, ih (o.step event) unbroken.2]

end Said

section Requests

variable {id : Nat}

/-- A request that has said its frame has written, and waits from then on. -/
theorem waiting_of_tells (o : Orderly c) {frame : List UInt8} (tells : c.Tells event (.call id) frame) :
    c.stageOf? id = some .writing ∧ (c.step event).stageOf? id = some .waiting := by
  obtain ⟨⟨count, rfl⟩, holds, frames, free⟩ := tells
  -- It was writing, and what the event does to it is one of the steps a request can take.
  have writes : c.stageOf? id = some .writing := (o.writing id).mp holds
  obtain ⟨after, found, goes⟩ := goes_step o (.write count) writes
  refine ⟨writes, ?_⟩
  cases goes with
  | stays =>
    -- It would still hold the writer, which is free.
    have still : (c.step (.write count)).writer? = some (.call id) :=
      ((o.step (.write count)).writing id).mpr found
    rw [writer?, free] at still
    cases still
  | written => exact found

/-- A request that comes to wait says its frame. -/
theorem tells_of_waiting (o : Orderly c) (f : Framed c)
    (waits : (c.step event).stageOf? id = some .waiting) :
    c.stageOf? id = some .waiting ∨ ∃ frame, c.Tells event (.call id) frame := by
  -- It is known already, and comes to wait by one of the steps that a request can take.
  rcases came_step o waits with ⟨_, new⟩ | ⟨old, before, goes⟩
  · cases new
  · cases goes with
    | stays => exact .inl before
    | written count =>
      -- It has held the writer until now, with its frame before it.
      have holds : c.writer? = some (.call id) := (o.writing id).mpr before
      obtain ⟨⟨holder, left⟩, held, rfl⟩ := Option.map_eq_some_iff.mp holds
      exact .inr ⟨_, ⟨count, rfl⟩, holds, f _ left held,
        free_of_written o holds (by rw [waits]; decide)⟩

/-- The request has come to wait for its answer at some moment of the run. -/
def Waited (c : Connection) (events : List Event) (id : Nat) : Prop :=
  ∃ first, first <+: events ∧ (c.run first).stageOf? id = some .waiting

/-- A request that has come to wait does not write any more. -/
theorem not_writing_of_waiting (o : Orderly c) (waits : c.stageOf? id = some .waiting)
    (events : List Event) : (c.run events).stageOf? id ≠ some .writing := by
  -- By induction on the events: from waiting a request only ends.
  have past : ∀ stage, (stage = .waiting ∨ stage = .abandoned ∨ ∃ outcome, stage = .finished outcome) →
      c.stageOf? id = some stage → (c.run events).stageOf? id ≠ some .writing := by
    clear waits
    induction events generalizing c with
    | nil =>
      rintro stage (rfl | rfl | ⟨outcome, rfl⟩) here writes
      all_goals
        rw [run, List.foldl_nil, here] at writes
        cases writes
    | cons event events ih =>
      intro stage ended here
      obtain ⟨after, found, goes⟩ := goes_step o event here
      refine ih (o.step event) after ?_ found
      cases goes with
      | stays => exact ended
      | answered => exact .inr (.inr ⟨_, rfl⟩)
      | abandoned => exact .inr (.inl rfl)
      | _ => simp at ended
  exact past .waiting (.inl rfl) waits

/-- A request has waited in a run if it did so before the last event, or waits behind it. -/
theorem waited_concat_iff {events : List Event} : c.Waited (events ++ [event]) id ↔
    c.Waited events id ∨ ((c.run events).step event).stageOf? id = some .waiting := by
  -- A front of the longer run is a front of the shorter one or all of it.
  constructor
  · rintro ⟨first, begins, waits⟩
    rcases List.prefix_concat_iff.mp begins with rfl | earlier
    · exact .inr (run_concat c events event ▸ waits)
    · exact .inl ⟨first, earlier, waits⟩
  · rintro (⟨first, begins, waits⟩ | waits)
    · exact ⟨first, begins.trans (List.prefix_append events [event]), waits⟩
    · exact ⟨events ++ [event], List.prefix_refl _, (run_concat c events event).symm ▸ waits⟩

/-- How often a request says its frame: once if it has come to wait, and never before. -/
theorem count_said (capacity : Nat) (events : List Event) (id : Nat) :
    ((start capacity).Waited events id →
      (((start capacity).said events).map Prod.fst).count (.call id) = 1) ∧
    (¬ (start capacity).Waited events id →
      (((start capacity).said events).map Prod.fst).count (.call id) = 0) := by
  -- By induction on the events, from the last one back.
  induction events using List.reverseRecOn with
  | nil =>
    -- At the start no request waits.
    refine ⟨fun ⟨first, begins, waits⟩ => ?_, fun _ => rfl⟩
    rw [List.prefix_nil.mp begins] at waits
    cases waits
  | append_singleton events event ih =>
    have o : Orderly ((start capacity).run events) := (Orderly.start capacity).run events
    have f : Framed ((start capacity).run events) := (sent_run_start capacity events).1
    have total : (((start capacity).said (events ++ [event])).map Prod.fst).count (.call id) =
        (((start capacity).said events).map Prod.fst).count (.call id) +
          ((((start capacity).run events).saidAt event).map Prod.fst).count (.call id) := by
      rw [said_append, List.map_append, List.count_append, said, said, List.append_nil]
    rw [total, waited_concat_iff]
    by_cases speaks : ∃ frame, ((start capacity).run events).Tells event (.call id) frame
    · -- It speaks now, and so has never waited before.
      obtain ⟨frame, tells⟩ := speaks
      obtain ⟨writes, waits⟩ := waiting_of_tells o tells
      -- To wait before would mean to write no more.
      have never : ¬ (start capacity).Waited events id := by
        rintro ⟨first, ⟨later, rfl⟩, waited⟩
        rw [run_append] at writes
        exact not_writing_of_waiting ((Orderly.start capacity).run first) waited later writes
      rw [ih.2 never, tells.saidAt_eq]
      exact ⟨fun _ => by simp, fun not => absurd (.inr waits) not⟩
    · -- It is silent now, and waits only if it has waited before.
      have silent : ((((start capacity).run events).saidAt event).map Prod.fst).count (.call id) = 0 := by
        rcases saidAt_cases f event with none | ⟨writer, frame, one, tells⟩
        · rw [none]
          rfl
        · have other : writer ≠ .call id := by
            rintro rfl
            exact speaks ⟨frame, tells⟩
          rw [one]
          simp [other]
      have before : (((start capacity).run events).step event).stageOf? id = some .waiting →
          (start capacity).Waited events id := fun waits =>
        ⟨events, List.prefix_refl _, (tells_of_waiting o f waits).resolve_right speaks⟩
      rw [silent, Nat.add_zero]
      exact ⟨fun waited => ih.1 (waited.elim (fun earlier => earlier) before),
        fun not => ih.2 fun waited => not (.inl waited)⟩

end Requests

section Demands

/-- A request of the other side: its id, which may be null, and its method. -/
structure Demand where
  id : Json
  method : String

/-- The frame that refuses a request of the other side. -/
def Demand.refusal (d : Demand) : List UInt8 := writeFrame (refusalPayload d.id d.method)

/-- The request of the other side that a message is, if it is one. -/
def demandOf? (m : Message) : Option Demand :=
  -- It has both an id and a method.
  match m.id, m.method with
  | some id, some method => some ⟨id, method⟩
  | _, _ => none

/-- The requests of the other side that the reader takes in a run, in their order. -/
def demands (c : Connection) : List Event → List Demand
  | [] => []
  | event :: events => ((c.message? event).bind demandOf?).toList ++ (c.step event).demands events

theorem demands_append (c : Connection) (first second : List Event) :
    c.demands (first ++ second) = c.demands first ++ (c.run first).demands second := by
  -- What the later events demand is taken by the connection that the first ones left.
  induction first generalizing c with
  | nil => rfl
  | cons event first ih =>
    simp only [List.cons_append, demands, List.append_assoc, ih]
    rfl

/-- A message of the other side is refused exactly if it is a request. -/
theorem reader_takeMessage (c : Connection) (m : Message) :
    (c.takeMessage m).reader =
      match demandOf? m with
      | some d => .refusing d.refusal
      | none => c.reader := by
  -- Only an id with a method asks for a refusal; an answer is for the requests alone.
  obtain ⟨id, method, result, error⟩ := m
  cases id with
  | none => rfl
  | some id =>
    cases method with
    | some method => cases id <;> rfl
    | none =>
      cases id with
      | null => rfl
      | int n =>
        simp only [takeMessage, demandOf?, responseOf?]
        cases numberOf? (.int n) <;> rfl
      | _ => rfl

/-- What has come of the demands that are taken up to a moment: they are refused in order, but for the
one that the reader is refusing at that moment. -/
def Refused (c : Connection) (refusals : List (List UInt8)) (taken : List Demand) : Prop :=
  ∃ done pending, taken = done ++ pending ∧ refusals = done.map Demand.refusal ∧
    ((pending = [] ∧ ∀ frame, c.reader ≠ .refusing frame) ∨
      ∃ d, pending = [d] ∧ c.reader = .refusing d.refusal)

/-- The frames that the reader says among others. -/
def refusalsAmong (speeches : List (Writer × List UInt8)) : List (List UInt8) :=
  (speeches.filter fun speech => speech.1 = .reader).map Prod.snd

theorem refusalsAmong_append (first second : List (Writer × List UInt8)) :
    refusalsAmong (first ++ second) = refusalsAmong first ++ refusalsAmong second := by
  -- Refusals are picked out one by one.
  rw [refusalsAmong, List.filter_append, List.map_append]
  rfl

/-- A reader that says its frame has refused something, and reads on. -/
theorem reader_of_tells {frame : List UInt8} (tells : c.Tells event .reader frame) :
    c.reader = .refusing frame ∧ (c.step event).reader = .reading := by
  obtain ⟨⟨count, rfl⟩, holds, frames, free⟩ := tells
  constructor
  · -- The frame of the reader is the refusal it is in.
    simp only [frameOf?] at frames
    split at frames
    · rename_i refusing
      rw [refusing, Option.some.inj frames]
    · cases frames
  · -- The writer is free once all bytes are written, which is when the reader reads on.
    obtain ⟨⟨holder, left⟩, held, rfl⟩ := Option.map_eq_some_iff.mp holds
    have does := does_step c (.write count)
    generalize c.step (.write count) = d at does free
    cases does with
    | nothing event idles => exact idles.elim
    | wroteNothing => cases held.symm.trans free
    | wrotePart => cases free
    | wroteAll count writer bytes writes =>
      obtain ⟨rfl, rfl⟩ := Prod.mk.inj (Option.some.inj (held.symm.trans writes))
      rfl

/-- What is taken at an event, as a request of the other side. -/
def demandAt (c : Connection) (event : Event) : Option Demand := (c.message? event).bind demandOf?

/-- A reader that takes a message turns to refuse it if it is a request. -/
theorem reader_of_message {m : Message} (taken : c.message? event = some m) :
    c.reader = .reading ∧ (c.step event).reader =
      match demandOf? m with
      | some d => .refusing d.refusal
      | none => .reading := by
  -- A message is taken by a read, and the reader then refuses it or reads on.
  obtain ⟨rfl, reading, payload, rest, frame, parsed⟩ := reads_of_message taken
  refine ⟨reading, ?_⟩
  simp only [step, read, reading, frame, takePayload, parsed, reader_takeMessage]

/-- Without a message the reader turns to refuse nothing. -/
theorem reader_of_no_message (none : c.message? event = none) {frame : List UInt8}
    (now : (c.step event).reader = .refusing frame) : c.reader = .refusing frame := by
  -- Only a payload that is a message can turn it.
  have does := does_step c event
  generalize c.step event = d at does now
  cases does with
  | took payload rest reading found =>
    have unsaid : (Message.ofPayload payload).toOption = Option.none := by
      simpa only [message?, taken?, reading, found, Option.bind_some] using none
    simp only [takePayload] at now
    split at now
    · rename_i m said
      rw [said] at unsaid
      cases unsaid
    · exact now
  | wroteAll count writer =>
    cases writer with
    | reader => cases now
    | _ => exact now
  | failedReader | readToEnd | readFault | failedRead | closed => cases now
  | _ => exact now

/-- The reader takes a demand, refuses one, or does neither. -/
inductive Refuses (c : Connection) (event : Event) : Prop where
  | neither (untaken : c.demandAt event = none) (silent : refusalsAmong (c.saidAt event) = [])
      (same : ∀ frame, (c.step event).reader = .refusing frame ↔ c.reader = .refusing frame)
  | takes (d : Demand) (taken : c.demandAt event = some d)
      (silent : refusalsAmong (c.saidAt event) = []) (reading : c.reader = .reading)
      (now : (c.step event).reader = .refusing d.refusal)
  | refuses (frame : List UInt8) (untaken : c.demandAt event = none)
      (told : refusalsAmong (c.saidAt event) = [frame]) (before : c.reader = .refusing frame)
      (now : (c.step event).reader = .reading)

/-- Every event of a calm run does one of these things. -/
theorem refuses_step (f : Framed c) (calm : event.IsCalm) : c.Refuses event := by
  have silence (untold : ∀ frame, ¬ c.Tells event .reader frame) :
      refusalsAmong (c.saidAt event) = [] := by
    rcases saidAt_cases f event with none | ⟨writer, frame, one, tells⟩
    · rw [none]
      rfl
    · have other : writer ≠ .reader := by
        rintro rfl
        exact untold frame tells
      simp [refusalsAmong, one, other]
  cases taken : c.message? event with
  | some m =>
    -- A message is taken, and the reader, who is reading, tells nothing.
    obtain ⟨reading, now⟩ := reader_of_message taken
    have silent := silence fun frame tells => by
      rw [(reader_of_tells tells).1] at reading
      cases reading
    cases demanded : demandOf? m with
    | none =>
      refine .neither (by rw [demandAt, taken, Option.bind_some, demanded]) silent fun frame => ?_
      rw [now, demanded, reading]
    | some d =>
      -- It demands an answer, which the reader is going to refuse.
      rw [demanded] at now
      exact .takes d (by rw [demandAt, taken, Option.bind_some, demanded]) silent reading now
  | none =>
    have untaken : c.demandAt event = none := by rw [demandAt, taken, Option.bind_none]
    -- Without a message a refusal is told, or nothing happens to it.
    by_cases speaks : ∃ frame, c.Tells event .reader frame
    · obtain ⟨frame, tells⟩ := speaks
      obtain ⟨before, now⟩ := reader_of_tells tells
      refine .refuses frame untaken ?_ before now
      rw [tells.saidAt_eq]
      rfl
    · refine .neither untaken (silence fun frame tells => speaks ⟨frame, tells⟩) fun frame =>
        ⟨reader_of_no_message taken, fun before => ?_⟩
      -- A reader that is refusing stays so until it has told its frame.
      rcases readerGoes_step c event with same | ⟨reading, _⟩ | ⟨reading, _, _, _⟩ |
        ⟨count, rfl, holds, free, _⟩ | ⟨stormy, _⟩
      · exact same.trans before
      · cases reading.symm.trans before
      · cases reading.symm.trans before
      · exact absurd ⟨frame, ⟨count, rfl⟩, holds, by simp only [frameOf?, before], free⟩ speaks
      · exact absurd calm stormy

/-- In a calm run the demands that the reader takes are refused in order, up to the last one. -/
theorem refused_run (capacity : Nat) {events : List Event} (calm : ∀ event ∈ events, event.IsCalm) :
    ((start capacity).run events).Refused (refusalsAmong ((start capacity).said events))
      ((start capacity).demands events) := by
  -- By induction on the events, from the last one back: a demand is pending until it is refused.
  induction events using List.reverseRecOn with
  | nil => exact ⟨[], [], rfl, rfl, .inl ⟨rfl, fun frame refusing => by cases refusing⟩⟩
  | append_singleton events event ih =>
    have f : Framed ((start capacity).run events) := (sent_run_start capacity events).1
    have last : (start capacity).run (events ++ [event]) = ((start capacity).run events).step event :=
      run_concat ..
    obtain ⟨done, pending, taken, refusals, stands⟩ :=
      ih fun event member => calm event (List.mem_append_left _ member)
    have said : refusalsAmong ((start capacity).said (events ++ [event])) =
        done.map Demand.refusal ++ refusalsAmong (((start capacity).run events).saidAt event) := by
      rw [said_append, refusalsAmong_append, refusals, said, said, List.append_nil]
    have demanded : (start capacity).demands (events ++ [event]) =
        done ++ pending ++ (((start capacity).run events).demandAt event).toList := by
      rw [demands_append, taken, demands, demands, List.append_nil]
      rfl
    rw [last, said, demanded]
    rcases refuses_step f (calm event (by simp)) with ⟨untaken, silent, same⟩ |
      ⟨d, found, silent, reading, now⟩ | ⟨frame, untaken, told, before, now⟩
    · -- Neither a demand nor a refusal: the pending one stays.
      refine ⟨done, pending, by simp [untaken], by simp [silent], ?_⟩
      rcases stands with ⟨none, idle⟩ | ⟨d, one, refusing⟩
      · exact .inl ⟨none, fun frame refusing => idle frame ((same frame).mp refusing)⟩
      · exact .inr ⟨d, one, (same _).mpr refusing⟩
    · -- A demand while the reader reads, so that no other one is pending.
      have none : pending = [] := by
        rcases stands with ⟨none, _⟩ | ⟨_, _, refusing⟩
        · exact none
        · cases reading.symm.trans refusing
      exact ⟨done, [d], by simp [none, found], by simp [silent], .inr ⟨d, rfl, now⟩⟩
    · -- The pending demand is refused, and none is left.
      obtain ⟨d, rfl, refusing⟩ : ∃ d, pending = [d] ∧
          ((start capacity).run events).reader = .refusing d.refusal := by
        rcases stands with ⟨_, idle⟩ | one
        · exact absurd before (idle frame)
        · exact one
      rw [before, Reader.refusing.injEq] at refusing
      refine ⟨done ++ [d], [], by simp [untaken], by simp [told, refusing], .inl ⟨rfl, ?_⟩⟩
      rw [now]
      intro frame refusing
      cases refusing

end Demands

/-- In a calm run all is sent in whole frames, up to the beginning of one more: the frame of each
request that has come to wait for its answer once and of no other request, and for each demand of the
other side, in the order in which they come, one frame that echoes its id with the code of unknown
methods, but for the demand that the reader is refusing now. -/
theorem sent_once (capacity : Nat) (events : List Event)
    (unbroken : (start capacity).Unbroken events) :
    let c := (start capacity).run events
    let said := (start capacity).said events
    c.delivered ++ c.outbound = said.flatMap Prod.snd ++ c.part ∧
    (∃ payload, c.part <+: writeFrame payload ∧ c.part ≠ writeFrame payload) ∧
    (∀ speech ∈ said, speech.1 = .reader ∨ ∃ id request,
      speech = (.call id, requestFrame id request) ∧ c.requestOf? id = some request) ∧
    (∀ id, ((start capacity).Waited events id → (said.map Prod.fst).count (.call id) = 1) ∧
      (¬ (start capacity).Waited events id → (said.map Prod.fst).count (.call id) = 0)) ∧
    ∃ done pending, (start capacity).demands events = done ++ pending ∧
      (said.filter fun speech => speech.1 = .reader).map Prod.snd =
        done.map (fun d => writeFrame (Utf8.encode (Json.compact (.object [
          ("jsonrpc", .text "2.0"), ("id", d.id),
          ("error", .object [("code", .int (-32601)),
            ("message", .text s!"Unhandled method {d.method}")])])))) ∧
      ((pending = [] ∧ ∀ frame, c.reader ≠ .refusing frame) ∨
        ∃ d, pending = [d] ∧ c.reader = .refusing d.refusal) := by
  -- Unbroken, every turn ends whole, so the bytes sent are the frames said and the part under way.
  intro c said
  obtain ⟨framed, sent⟩ := sent_run_start capacity events
  have spoken : Spoken c := (Spoken.start capacity).run (.start capacity) events
  rw [turns_of_unbroken (.start capacity) unbroken, List.flatMap_map] at sent
  exact ⟨sent, part_underWay framed spoken, fun speech => speaker_of_said capacity events,
    count_said capacity events, refused_run capacity unbroken.calm⟩

/-- A request whose frame is too long for the pipe, while a demand with a null id comes in: the frame is
sent in two pieces, and the refusal behind it. -/
def crossing : List Event :=
  [.issue ⟨"m", .null, .any⟩, .register 0, .queue 0, .grant, .write 64,
    .arrive (writeFrame (Utf8.encode "\x7b\"jsonrpc\":\"2.0\",\"id\":null,\"method\":\"n\"\x7d")), .read,
    .deliver 64, .write 64, .grant, .write 30]

/-- The request is sent once, and the refusal is under way. -/
theorem sent_once_crossing :
    ((start 64).run crossing).delivered ++ ((start 64).run crossing).outbound =
        ((start 64).said crossing).flatMap Prod.snd ++ ((start 64).run crossing).part ∧
      (((start 64).said crossing).map Prod.fst).count (.call 0) = 1 ∧
      ((start 64).run crossing).part = (writeFrame (refusalPayload .null "n")).take 30 := by
  -- Two callers and a request of the peer cross on a narrow pipe; each unbroken step is checked in turn.
  have unbroken : (start 64).Unbroken crossing := by
    refine ⟨⟨trivial, ?_⟩, ⟨trivial, ?_⟩, ⟨trivial, ?_⟩, ⟨trivial, ?_⟩, ⟨trivial, ?_⟩, ⟨trivial, ?_⟩,
      ⟨trivial, ?_⟩, ⟨trivial, ?_⟩, ⟨trivial, ?_⟩, ⟨trivial, ?_⟩, ⟨trivial, ?_⟩, trivial⟩
    all_goals
      intro id same
      cases same
  obtain ⟨sent, -, -, once, -⟩ := sent_once 64 crossing unbroken
  have waited : (start 64).Waited crossing 0 :=
    ⟨crossing, List.prefix_refl _, by decide +kernel⟩
  exact ⟨sent, (once 0).1 waited, by decide +kernel⟩

end TemplateFacts.Wire.Connection
