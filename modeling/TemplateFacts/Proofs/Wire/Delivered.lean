import TemplateFacts.Proofs.Wire.Cut
import TemplateFacts.Proofs.Wire.Rest

/-!
What the other side reads of a smooth run: the payloads of whole requests and nothing else, and at
rest those of all requests.
-/

namespace TemplateFacts.Wire

/-- A smooth event breaks no writing. -/
theorem Event.IsSmooth.calm {event : Event} (smooth : event.IsSmooth) : event.IsCalm := by
  -- The two events that are not calm are not smooth.
  cases event with
  | failWrite fault => exact smooth.elim
  | close => exact smooth.elim
  | _ => trivial

/-- The payload of the request at a place. -/
def Request.payload (request : Request) (id : Nat) : List UInt8 :=
  requestPayload (Connection.numberAt id) request.method request.params

namespace Connection

variable {c : Connection}

/-- The payloads of all requests are no longer than the other side accepts. -/
def Fitting (c : Connection) : Prop :=
  ∀ id request, c.requestOf? id = some request → (request.payload id).length ≤ greatestPayload

section Reading

variable {turns : List Turn} {bytes rest payload : List UInt8}

/-- What is received of the beginning of some turns are frames that were written as a whole. -/
theorem whole_of_received (accepted : ∀ frame, .whole frame ∈ turns → Acceptable frame)
    (uncut : ∀ part, .cut part ∉ turns)
    (unfinished : ∃ last, rest <+: writeFrame last ∧ rest ≠ writeFrame last)
    (begins : bytes <+: turns.flatMap Turn.bytes ++ rest) (member : payload ∈ received bytes) :
    .whole (writeFrame payload) ∈ turns := by
  -- By induction on the turns, each of which is a frame that may be there in part.
  have nothing {last part : List UInt8} (inside : part <+: writeFrame last)
      (isPart : part ≠ writeFrame last) : received part = [] := by
    rw [received_eq]
    exact receivedFrom_part inside isPart
  induction turns generalizing bytes with
  | nil =>
    -- Only a part of a frame is there, and nothing is received of it.
    obtain ⟨last, inside, isPart⟩ := unfinished
    have within : bytes <+: rest := begins
    have isPart' : bytes ≠ writeFrame last := by
      rintro rfl
      exact isPart (inside.eq_of_length_le within.length_le)
    rw [nothing (within.trans inside) isPart'] at member
    cases member
  | cons turn turns ih =>
    cases turn with
    | cut part => exact absurd List.mem_cons_self (uncut part)
    | whole frame =>
      obtain ⟨first, rfl, fits⟩ := accepted frame List.mem_cons_self
      rw [List.flatMap_cons, List.append_assoc] at begins
      have split : bytes <+: writeFrame first ++ (turns.flatMap Turn.bytes ++ rest) := begins
      -- What is received behind the first frame was written in one of the other turns.
      have reaches {more : List UInt8} (behind : more <+: turns.flatMap Turn.bytes ++ rest)
          (member : payload ∈ received (writeFrame first ++ more)) :
          .whole (writeFrame payload) ∈ Turn.whole (writeFrame first) :: turns := by
        rw [received_eq, receivedFrom_writeFrame fits] at member
        rcases List.mem_cons.mp member with rfl | later
        · exact List.mem_cons_self
        · exact List.mem_cons_of_mem _ (ih (fun frame member => accepted frame
            (List.mem_cons_of_mem _ member)) (fun part member => uncut part
            (List.mem_cons_of_mem _ member)) behind later)
      -- Either the first frame is there in part, or as a whole with something behind it.
      rcases prefix_append_cases split with inside | ⟨more, rfl, behind⟩
      · by_cases whole : bytes = writeFrame first
        · rw [whole, ← List.append_nil (writeFrame first)] at member
          exact reaches List.nil_prefix member
        · rw [nothing inside whole] at member
          cases member
      · exact reaches behind member

end Reading

section Smooth

variable {capacity : Nat} {events : List Event} {payloads : List (List UInt8)}

/-- No turn of a smooth run is cut off. -/
theorem Receiving.uncut (r : Receiving capacity events payloads) (part : List UInt8) :
    .cut part ∉ (start capacity).turns events := by
  -- A part is cut off by an abandoned call, and a smooth run has none.
  intro ends
  obtain ⟨first, id, second, rfl, _⟩ :=
    abandoned_of_cut capacity (fun event member => (r.smooth event member).calm) ends
  exact (r.smooth (.abandon id) (by simp)).elim

/-- Every whole frame of a smooth run is that of a request. -/
theorem Receiving.request_of_whole (r : Receiving capacity events payloads) {frame : List UInt8}
    (ends : .whole frame ∈ (start capacity).turns events) :
    ∃ id request, ((start capacity).run events).requestOf? id = some request ∧
      frame = requestFrame id request := by
  obtain ⟨first, event, second, rfl, there⟩ := mem_turns _ _ ends
  obtain ⟨_, _, _, reads⟩ := (Receiving.first r).reads
  have orderly : Orderly ((start capacity).run first) := (Orderly.start capacity).run first
  have framed : Framed ((start capacity).run first) := (sent_run_start capacity first).1
  -- Of the writers only the requests have frames, as the reader refuses nothing in a smooth run.
  rcases turnAt_cases orderly framed there with ⟨writer, whole, frames, same⟩ | ⟨_, _, _, same, _⟩
  · rw [Turn.whole.injEq] at same
    subst same
    cases writer with
    | call id =>
      obtain ⟨request, asks, rfl⟩ := Option.map_eq_some_iff.mp frames
      refine ⟨id, request, ?_, rfl⟩
      rw [run_append]
      exact requestOf?_run asks (event :: second)
    | reader =>
      simp only [frameOf?, reads.stands.reading] at frames
      cases frames
    | closing index => cases frames
  · cases same

/-- The whole frames of a smooth run are accepted if its requests are. -/
theorem Receiving.acceptable (r : Receiving capacity events payloads)
    (fitting : Fitting ((start capacity).run events)) {frame : List UInt8}
    (ends : .whole frame ∈ (start capacity).turns events) : Acceptable frame := by
  -- The frame is a request's, and no request is longer than the other side accepts.
  obtain ⟨id, request, asks, rfl⟩ := r.request_of_whole ends
  exact ⟨request.payload id, rfl, fitting id request asks⟩

/-- Whatever the other side reads of a smooth run is a request. -/
theorem Receiving.request_of_received (r : Receiving capacity events payloads)
    (fitting : Fitting ((start capacity).run events)) {payload : List UInt8}
    (member : payload ∈ received ((start capacity).run events).delivered) :
    ∃ id request, ((start capacity).run events).requestOf? id = some request ∧
      payload = request.payload id := by
  obtain ⟨framed, total⟩ := sent_run_start capacity events
  have spoken : Spoken ((start capacity).run events) :=
    (Spoken.start capacity).run (.start capacity) events
  have begins : ((start capacity).run events).delivered <+:
      ((start capacity).turns events).flatMap Turn.bytes ++ ((start capacity).run events).part := by
    rw [← total]
    exact List.prefix_append _ _
  -- The other side reads whole frames only, since no part of one is left in between.
  have whole := whole_of_received (fun frame ends => r.acceptable fitting ends) r.uncut
    (part_underWay framed spoken) begins member
  obtain ⟨id, request, asks, same⟩ := r.request_of_whole whole
  exact ⟨id, request, asks, writeFrame_injective same⟩

/-- A request of a smooth run that has ended has been written as a whole. -/
theorem Receiving.whole_of_finished (r : Receiving capacity events payloads) {id : Nat}
    {request : Request} {outcome : Except Error Json}
    (ended : ((start capacity).run events).stageOf? id = some (.finished outcome))
    (asks : ((start capacity).run events).requestOf? id = some request) :
    .whole (requestFrame id request) ∈ (start capacity).turns events := by
  -- By induction on the events, from the last one back.
  induction events using List.reverseRecOn with
  | nil => cases ended
  | append_singleton events event ih =>
    have now : (((start capacity).run events).step event).stageOf? id = some (.finished outcome) := by
      rw [run_append] at ended
      exact ended
    rw [turns_append]
    refine List.mem_append_left _ ?_
    rcases came_step ((Orderly.start capacity).run events) now with ⟨_, new⟩ | ⟨old, before, goes⟩
    · cases new
    · obtain ⟨request', asks'⟩ := requestOf?_of_stageOf? before
      obtain rfl : request' = request := by
        rw [run_append] at asks
        exact Option.some.inj ((requestOf?_run asks' [event]).symm.trans asks)
      cases goes with
      -- It had ended before this event.
      | stays => exact ih r.first before asks'
      | refused _ closed =>
        obtain ⟨_, _, _, reads⟩ := r.first.reads
        rw [reads.stands.isOpen] at closed
        cases closed
      | answered =>
        -- It waited for its answer, and its frame was written before that.
        rcases whole_of_waiting (.start capacity) before asks' with fresh | written
        · cases fresh
        · exact written
      | failed fault => exact (r.smooth (.failWrite fault) (by simp)).elim

/-- At rest the other side reads all requests of a smooth run. -/
theorem Receiving.delivered (r : Receiving capacity events payloads) (room : 0 < capacity)
    (few : ((start capacity).run events).calls.length < 2 ^ 64)
    (fitting : Fitting ((start capacity).run events)) (resting : Resting ((start capacity).run events))
    {id : Nat} {request : Request} (asks : ((start capacity).run events).requestOf? id = some request) :
    request.payload id ∈ received ((start capacity).run events).delivered := by
  obtain ⟨framed, total⟩ := sent_run_start capacity events
  obtain ⟨_, _, _, reads⟩ := r.reads
  have orderly : Orderly ((start capacity).run events) := (Orderly.start capacity).run events
  have spoken : Spoken ((start capacity).run events) :=
    (Spoken.start capacity).run (.start capacity) events
  have room' : 0 < ((start capacity).run events).capacity := by
    rw [capacity_run]
    exact room
  -- Whatever its stage at rest, its frame was written.
  obtain ⟨stage, found⟩ := stageOf?_of_requestOf? asks
  have whole : .whole (requestFrame id request) ∈ (start capacity).turns events := by
    rcases resting.stage orderly reads.stands spoken room' found with rfl | rfl | ⟨outcome, rfl⟩
    · rcases whole_of_waiting (.start capacity) found asks with fresh | written
      · cases fresh
      · exact written
    · exact absurd found ((r.answers few).present id)
    · exact r.whole_of_finished found asks
  -- All that was written has been taken.
  have all : ((start capacity).run events).delivered = ((start capacity).run events).sent := by
    rw [sent, resting.outbound, List.append_nil]
  obtain ⟨last, inside, isPart⟩ := part_underWay framed spoken
  have frames : (received ((start capacity).run events).delivered).map writeFrame =
      wholes ((start capacity).turns events) := by
    rw [all, total, received_eq]
    exact receivedFrom_turns (fun frame ends => r.acceptable fitting ends)
      (fun part ends => absurd ends (r.uncut part)) (fun _ _ => receivedFrom_part inside isPart) _ _
  have member : requestFrame id request ∈ wholes ((start capacity).turns events) :=
    List.mem_filterMap.mpr ⟨_, whole, rfl⟩
  -- The frames that were received are those of the turns, and a frame tells its payload.
  rw [← frames] at member
  obtain ⟨payload, inside, same⟩ := List.mem_map.mp member
  have payload_eq : payload = request.payload id := writeFrame_injective same
  rw [← payload_eq]
  exact inside

end Smooth

end Connection

end TemplateFacts.Wire
