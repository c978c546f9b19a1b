import TemplateFacts.Proofs.Wire.Received
import TemplateFacts.Proofs.Wire.Spoken

/-!
Giving up a request in the middle of its frame: the frames of all others come as they were written
if only a harmless part was written of the frame, and the next frame is spoiled if not.
-/

namespace TemplateFacts.Wire

/-- The frame is no longer than the other side accepts. -/
def Acceptable (frame : List UInt8) : Prop :=
  ∃ payload, frame = writeFrame payload ∧ payload.length ≤ greatestPayload

namespace Connection

/-- The frame that is written in a turn, if it is written as a whole. -/
def Turn.frame? : Turn → Option (List UInt8)
  | .whole frame => some frame
  | .cut _ => none

/-- The frames that are written as a whole in some turns. -/
def wholes (turns : List Turn) : List (List UInt8) := turns.filterMap Turn.frame?

section Turns

variable {turns : List Turn} {rest : List UInt8}

/-- Whole frames come as they were written, harmless parts being passed over. -/
theorem receivedFrom_turns (accepted : ∀ frame, .whole frame ∈ turns → Acceptable frame)
    (harmless : ∀ part, .cut part ∈ turns → Harmless part)
    (nothing : ∀ headers returns, receivedFrom headers returns rest = [])
    (headers : Headers) (returns : Nat) :
    (receivedFrom headers returns (turns.flatMap Turn.bytes ++ rest)).map writeFrame =
      wholes turns := by
  -- By induction on the turns: each leaves a line at its beginning.
  induction turns generalizing headers returns with
  | nil => simp [nothing, wholes]
  | cons turn turns ih =>
    have later := ih (fun frame member => accepted frame (List.mem_cons_of_mem _ member))
      (fun part member => harmless part (List.mem_cons_of_mem _ member))
    rw [List.flatMap_cons, List.append_assoc]
    cases turn with
    | whole frame =>
      obtain ⟨payload, rfl, fits⟩ := accepted frame List.mem_cons_self
      show (receivedFrom headers returns (writeFrame payload ++ _)).map writeFrame = _
      rw [receivedFrom_writeFrame fits, List.map_cons, received_eq, later]
      rfl
    | cut part =>
      obtain ⟨headers', returns', passed⟩ := receivedFrom_harmless headers returns
        (turns.flatMap Turn.bytes ++ rest) (harmless part List.mem_cons_self)
      show (receivedFrom headers returns (part ++ _)).map writeFrame = _
      rw [passed, later]
      rfl

/-- Whole frames come before anything else if nothing is left of the others. -/
theorem received_turns (accepted : ∀ frame, .whole frame ∈ turns → Acceptable frame)
    (empty : ∀ part, .cut part ∈ turns → part = []) :
    (received (turns.flatMap Turn.bytes ++ rest)).map writeFrame =
      wholes turns ++ (received rest).map writeFrame := by
  -- By induction on the turns: a whole frame is read first, and an empty part leaves no bytes.
  induction turns with
  | nil => rfl
  | cons turn turns ih =>
    have later := ih (fun frame member => accepted frame (List.mem_cons_of_mem _ member))
      (fun part member => empty part (List.mem_cons_of_mem _ member))
    rw [List.flatMap_cons, List.append_assoc]
    cases turn with
    | whole frame =>
      obtain ⟨payload, rfl, fits⟩ := accepted frame List.mem_cons_self
      show (received (writeFrame payload ++ _)).map writeFrame = _
      rw [received_eq, receivedFrom_writeFrame fits, List.map_cons, later]
      rfl
    | cut part =>
      obtain rfl := empty part List.mem_cons_self
      exact later

/-- A frame comes behind a part of another one only if that part is harmless. -/
theorem harmless_of_intact {part frame : List UInt8} (begins : ∃ payload, part <+: writeFrame payload)
    (speech : IsSpeech frame) (accepted : Acceptable frame)
    (intact : (received (part ++ frame ++ rest)).map writeFrame = [frame]) : Harmless part := by
  -- Behind the cut part the reader finds the one payload that the frame was written for.
  obtain ⟨first, begins⟩ := begins
  obtain ⟨members, rfl⟩ := speech
  obtain ⟨payload, same, fits⟩ := accepted
  obtain rfl := writeFrame_injective same
  obtain ⟨front, ends⟩ := Json.encode_compact_ends members
  obtain ⟨payload, one, written⟩ := List.map_eq_singleton_iff.mp intact
  rw [writeFrame_injective written] at one
  exact harmless_of_received begins ends (Json.noFeed_encode_compact _) fits one

end Turns

/-- A refusal that was begun is under way still, or it was written as a whole in some turn. -/
theorem whole_of_refused_run (capacity : Nat) {first second : List Event} {frame : List UInt8}
    (calm : ∀ event ∈ first ++ second, event.IsCalm)
    (refusing : ((start capacity).run first).reader = .refusing frame) :
    ((start capacity).run (first ++ second)).reader = .refusing frame ∨
      .whole frame ∈ (start capacity).turns (first ++ second) := by
  -- The later events see the refusal through, as none of them cuts it off.
  have orderly : Orderly ((start capacity).run first) := (Orderly.start capacity).run first
  have calmLater : ∀ event ∈ second, event.IsCalm :=
    fun event member => calm event (List.mem_append_right _ member)
  rw [run_append, turns_append]
  rcases whole_of_refused orderly calmLater refusing with still | written
  · exact .inl still
  · exact .inr (List.mem_append_right _ written)

/-- Behind cuts that left nothing, a cut before the last frame is harmless if all frames come. -/
theorem harmless_of_comes (capacity : Nat) {events : List Event} {earlier : List Turn}
    {part frame : List UInt8}
    (accepted : ∀ frame, .whole frame ∈ (start capacity).turns events → Acceptable frame)
    (same : (start capacity).turns events = earlier ++ [.cut part, .whole frame])
    (empty : ∀ other, .cut other ∈ earlier → other = [])
    (comes : (received ((start capacity).run events).sent).map writeFrame =
      wholes ((start capacity).turns events)) : Harmless part := by
  -- The earlier frames come through, so what the reader makes of the rest is the last frame alone.
  have wholeFrame : .whole frame ∈ (start capacity).turns events := by rw [same]; simp
  have cutPart : .cut part ∈ (start capacity).turns events := by rw [same]; simp
  have acceptedEarlier : ∀ frame, .whole frame ∈ earlier → Acceptable frame := by
    intro other member
    refine accepted other ?_
    rw [same]
    exact List.mem_append_left _ member
  have split : ((start capacity).run events).sent =
      earlier.flatMap Turn.bytes ++ (part ++ frame ++ ((start capacity).run events).part) := by
    rw [(sent_run_start capacity events).2, same]
    simp [Turn.bytes]
  have all : wholes (earlier ++ [.cut part, .whole frame]) = wholes earlier ++ [frame] := by
    rw [wholes, List.filterMap_append]
    rfl
  rw [split, received_turns acceptedEarlier empty, same, all, List.append_cancel_left_eq] at comes
  exact harmless_of_intact (part_of_cut capacity cutPart) (speech_of_whole capacity wholeFrame)
    (accepted frame wholeFrame) comes

/--
What the other side receives in a run without close or failing writes. A frame is cut off only by
giving up the request that is writing it, so that giving up in the line or behind the frame cuts
nothing. Every request that waits for its answer, and every refusal that is not under way any more,
was written as a whole. As long as all parts of frames that were cut off are harmless, the frames
that come are those that were written as a whole, in their order. When one frame was cut off and
another one was written behind it, the frames come so exactly if the part is harmless.
-/
theorem frames_intact_iff_harmless (capacity : Nat) (events : List Event)
    (calm : ∀ event ∈ events, event.IsCalm)
    (accepted : ∀ frame, .whole frame ∈ (start capacity).turns events → Acceptable frame) :
    let c := (start capacity).run events
    let turns := (start capacity).turns events
    (∀ part, .cut part ∈ turns → ∃ first id second, events = first ++ .abandon id :: second ∧
      ((start capacity).run first).writer? = some (.call id) ∧
      ((start capacity).run first).part = part) ∧
    (∀ id request, c.stageOf? id = some .waiting → c.requestOf? id = some request →
      .whole (requestFrame id request) ∈ turns) ∧
    (∀ first second frame, events = first ++ second →
      ((start capacity).run first).reader = .refusing frame →
      c.reader = .refusing frame ∨ .whole frame ∈ turns) ∧
    ((∀ part, .cut part ∈ turns → Harmless part) →
      (received c.sent).map writeFrame = wholes turns) ∧
    (∀ earlier part frame, turns = earlier ++ [.cut part, .whole frame] →
      (∀ other, .cut other ∈ earlier → other = []) →
      ((received c.sent).map writeFrame = wholes turns ↔ Harmless part)) := by
  -- What was sent is the turns' bytes and the part under way, and a reader takes it frame by frame;
  -- only a part that was cut off can lead it into the frame behind.
  intro c turns
  obtain ⟨framed, total⟩ := sent_run_start capacity events
  have spoken : Spoken c := (Spoken.start capacity).run (.start capacity) events
  obtain ⟨payload, begins, isPart⟩ := part_underWay framed spoken
  have intact (harmless : ∀ part, .cut part ∈ turns → Harmless part) :
      (received c.sent).map writeFrame = wholes turns := by
    rw [total, received_eq]
    exact receivedFrom_turns accepted harmless (fun _ _ => receivedFrom_part begins isPart) _ _
  refine ⟨fun part ends => abandoned_of_cut capacity calm ends, ?_, ?_, intact, ?_⟩
  · -- Nobody waited at the start, so the frame was written by a turn.
    intro id request waits asks
    rcases whole_of_waiting (.start capacity) waits asks with before | written
    · cases before
    · exact written
  · rintro first second frame rfl refusing
    exact whole_of_refused_run capacity calm refusing
  · intro earlier part frame same empty
    refine ⟨harmless_of_comes capacity accepted same empty, fun harmless => ?_⟩
    -- The cuts of the run are the earlier ones, which left nothing, and the harmless one.
    refine intact fun other member => ?_
    rw [same] at member
    rcases List.mem_append.mp member with before | last
    · exact .inl (empty other before)
    · have isPart : other = part := by simpa using last
      rw [isPart]
      exact harmless

/-- A run on a pipe with little room: a request is given up with its frame not yet written. -/
def cutRun : List Event :=
  [.issue ⟨"a", .null, .any⟩, .issue ⟨"b", .null, .any⟩, .register 0, .register 1, .queue 0,
    .queue 1, .grant, .write 64, .abandon 0, .deliver 64, .grant, .write 64, .deliver 64, .write 64]

/-- The frame of another request is merged into the one that was given up. -/
theorem frames_merged_behind_cut :
    ∃ capacity events, (∀ event ∈ events, event.IsCalm) ∧
      (∀ frame, .whole frame ∈ (start capacity).turns events → Acceptable frame) ∧
      (received ((start capacity).run events).sent).map writeFrame ≠
        wholes ((start capacity).turns events) := by
  have turns : (start 64).turns cutRun =
      [.cut ((requestFrame 0 ⟨"a", .null, .any⟩).take 64), .whole (requestFrame 1 ⟨"b", .null, .any⟩)] := by
    decide +kernel
  refine ⟨64, cutRun, by simp [cutRun, Event.IsCalm], fun frame ends => ?_, fun same => ?_⟩
  · have isFrame : frame = requestFrame 1 ⟨"b", .null, .any⟩ := by simpa [turns] using ends
    exact ⟨_, isFrame, by decide +kernel⟩
  · -- The first payload that comes ends with the beginning of the second frame.
    let merged := (requestPayload 0 "a" .null).take 42 ++ (requestFrame 1 ⟨"b", .null, .any⟩).take 9
    let left := (requestFrame 1 ⟨"b", .null, .any⟩).drop 9
    have reads : readFrame false ((start 64).run cutRun).sent = .frame merged left := by
      decide +kernel
    rw [received, reads, turns] at same
    have first : writeFrame merged = requestFrame 1 ⟨"b", .null, .any⟩ := (List.cons.inj same).1
    exact absurd first (by decide +kernel)

/-- A run in which a request is given up with no more than the header line of its frame written. -/
def passedRun : List Event :=
  [.issue ⟨"a", .null, .any⟩, .issue ⟨"b", .null, .any⟩, .register 0, .register 1, .queue 0,
    .queue 1, .grant, .write 20, .abandon 0, .grant, .write 4096]

/-- The frame of another request comes behind a header line. -/
theorem frames_intact_behind_line :
    (∀ event ∈ passedRun, event.IsCalm) ∧
      (∀ frame, .whole frame ∈ (start 4096).turns passedRun → Acceptable frame) ∧
      (received ((start 4096).run passedRun).sent).map writeFrame =
        wholes ((start 4096).turns passedRun) := by
  -- The part cut off is a whole header line, and the next frame sets the length again.
  have turns : (start 4096).turns passedRun =
      [] ++ [.cut (lengthBytes 51 ++ [10]), .whole (requestFrame 1 ⟨"b", .null, .any⟩)] := by
    decide +kernel
  have calm : ∀ event ∈ passedRun, event.IsCalm := by simp [passedRun, Event.IsCalm]
  have accepted : ∀ frame, .whole frame ∈ (start 4096).turns passedRun → Acceptable frame := by
    intro frame ends
    have isFrame : frame = requestFrame 1 ⟨"b", .null, .any⟩ := by simpa [turns] using ends
    exact ⟨_, isFrame, by decide +kernel⟩
  obtain ⟨_, _, _, _, behind⟩ := frames_intact_iff_harmless 4096 passedRun calm accepted
  refine ⟨calm, accepted, (behind [] _ _ turns fun _ member => by cases member).mpr ?_⟩
  exact .inr ⟨51, by decide, .inl rfl⟩

end Connection

end TemplateFacts.Wire
