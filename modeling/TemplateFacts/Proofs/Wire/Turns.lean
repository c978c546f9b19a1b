import TemplateFacts.Proofs.Wire.Sent

/-!
Turns: all that is sent is sent turn by turn. In its turn a holder of the writer writes a whole
frame, unless it is cut off, which leaves the beginning of the frame behind.
-/

namespace TemplateFacts.Wire.Connection

variable {c : Connection}

/-- What the holder of the writer has written of its frame. -/
def part (c : Connection) : List UInt8 :=
  match c.holder with
  | none => []
  | some (writer, left) =>
    let frame := (c.frameOf? writer).getD []
    frame.take (frame.length - left.length)

/-- The holder of the writer has the end of its frame left to write. -/
def Framed (c : Connection) : Prop :=
  ∀ writer left, c.holder = some (writer, left) → c.frameOf? writer = some (c.part ++ left)

/-- The time that somebody holds the writer, from its beginning to its end. -/
inductive Turn where
  /-- A frame was written. -/
  | whole (frame : List UInt8)
  /-- The beginning of a frame was written, and is followed by something else. -/
  | cut (part : List UInt8)
deriving DecidableEq

/-- The bytes that are written in a turn. -/
def Turn.bytes : Turn → List UInt8
  | .whole frame => frame
  | .cut part => part

/-- The turn that ends at an event. -/
def turnAt (c : Connection) (event : Event) : List Turn :=
  -- Writing ends a turn only when all is written.
  match c.holder, (c.step event).holder, event with
  | some (writer, _), none, .write _ => [.whole ((c.frameOf? writer).getD [])]
  | some _, none, _ => [.cut c.part]
  | _, _, _ => []

/-- The turns that have ended in a run, the first one first. -/
def turns (c : Connection) : List Event → List Turn
  | [] => []
  | event :: events => c.turnAt event ++ (c.step event).turns events

theorem turns_append (c : Connection) (first second : List Event) :
    c.turns (first ++ second) = c.turns first ++ (c.run first).turns second := by
  -- What turns end later end in the connection that the first events left.
  induction first generalizing c with
  | nil => rfl
  | cons event first ih =>
    simp only [List.cons_append, turns, List.append_assoc, ih]
    rfl

/-- What the holder has written is fixed by its frame and by what is left of it. -/
theorem part_eq {writer : Writer} {now left : List UInt8} (held : c.holder = some (writer, left))
    (frame : c.frameOf? writer = some (now ++ left)) : c.part = now := by
  -- What is left is cut off the end of the frame.
  simp only [part, held, frame, Option.getD_some, List.length_append, Nat.add_sub_cancel,
    List.take_left]

/-- A free writer has no frame under way. -/
theorem part_of_free (free : c.holder = none) : c.part = [] := by
  simp only [part, free]

/-- Nothing is under way on a new connection. -/
theorem Framed.start (capacity : Nat) : Framed (start capacity) := by
  -- At the start nobody holds the writer.
  intro writer left held
  cases held

/-- What an event writes belongs to the turn under way, which it may end. -/
theorem framed_step (o : Orderly c) (f : Framed c) (event : Event) :
    Framed (c.step event) ∧
      c.part ++ c.bytesAt event =
        (c.turnAt event).flatMap Turn.bytes ++ (c.step event).part := by
  rcases hands_step o event with ⟨same, frames, silent⟩ | ⟨writer, frame, free, holds, frames, silent⟩ |
    ⟨writer, bytes, left, held, holds, frames, written, _⟩ |
    ⟨count, writer, left, rfl, held, free, written⟩ | ⟨writer, left, held, free, silent, cause⟩
  · -- The holder stays as it is.
    have turn : c.turnAt event = [] := by
      unfold turnAt
      rw [same]
      cases c.holder with
      | none => rfl
      | some holding => rfl
    cases held : c.holder with
    | none =>
      have free : (c.step event).holder = none := same.trans held
      refine ⟨fun writer left holds => ?_, ?_⟩
      · rw [free] at holds
        cases holds
      · rw [part_of_free held, part_of_free free, silent, turn]
        rfl
    | some holding =>
      obtain ⟨writer, left⟩ := holding
      have holds : (c.step event).holder = some (writer, left) := same.trans held
      have frame : (c.step event).frameOf? writer = some (c.part ++ left) :=
        (frames writer (by simp [writer?, held])).trans (f writer left held)
      have part : (c.step event).part = c.part := part_eq holds frame
      refine ⟨fun other left' holds' => ?_, ?_⟩
      · rw [holds, Option.some.injEq, Prod.mk.injEq] at holds'
        obtain ⟨rfl, rfl⟩ := holds'
        rw [part, frame]
      · rw [part, silent, turn, List.append_nil]
        rfl
  · -- A new turn begins.
    have turn : c.turnAt event = [] := by simp only [turnAt, free]
    have part : (c.step event).part = [] := by
      have whole : (c.step event).frameOf? writer = some ([] ++ frame) := frames
      exact part_eq holds whole
    refine ⟨fun other left holds' => ?_, ?_⟩
    · rw [holds, Option.some.injEq, Prod.mk.injEq] at holds'
      obtain ⟨rfl, rfl⟩ := holds'
      rw [part, frames]
      rfl
    · rw [part_of_free free, part, silent, turn]
      rfl
  · -- The turn goes on.
    have turn : c.turnAt event = [] := by simp only [turnAt, held, holds]
    have frame : (c.step event).frameOf? writer = some ((c.part ++ bytes) ++ left) := by
      rw [frames, f writer (bytes ++ left) held, List.append_assoc]
    have part : (c.step event).part = c.part ++ bytes := part_eq holds frame
    refine ⟨fun other left' holds' => ?_, ?_⟩
    · rw [holds, Option.some.injEq, Prod.mk.injEq] at holds'
      obtain ⟨rfl, rfl⟩ := holds'
      rw [part, frame]
    · rw [part, written, turn]
      rfl
  · -- The turn ends with a whole frame.
    have turn : c.turnAt (.write count) = [.whole (c.part ++ left)] := by
      simp only [turnAt, held, free, f writer left held, Option.getD_some]
    refine ⟨fun other left' holds' => ?_, ?_⟩
    · rw [free] at holds'
      cases holds'
    · rw [part_of_free free, written, turn]
      simp [Turn.bytes]
  · -- The turn is cut off.
    have turn : c.turnAt event = [.cut c.part] := by
      rcases cause with ⟨id, rfl, _⟩ | ⟨fault, rfl⟩ | rfl <;> simp only [turnAt, held, free]
    refine ⟨fun other left' holds' => ?_, ?_⟩
    · rw [free] at holds'
      cases holds'
    · rw [part_of_free free, silent, turn]
      simp [Turn.bytes]

/-- All that is sent in a run was sent in its turns, or in the turn under way. -/
theorem sent_run (o : Orderly c) (f : Framed c) {front : List UInt8}
    (before : c.sent = front ++ c.part) (events : List Event) :
    Framed (c.run events) ∧
      (c.run events).sent =
        front ++ (c.turns events).flatMap Turn.bytes ++ (c.run events).part := by
  -- By induction on the events, each of which writes for the turn under way.
  induction events generalizing c front with
  | nil => exact ⟨f, by simpa [run, turns] using before⟩
  | cons event events ih =>
    obtain ⟨framed, written⟩ := framed_step o f event
    have after : (c.step event).sent =
        (front ++ (c.turnAt event).flatMap Turn.bytes) ++ (c.step event).part := by
      rw [sent_step, before, List.append_assoc, written, List.append_assoc]
    obtain ⟨still, total⟩ := ih (o.step event) framed after
    refine ⟨still, total.trans ?_⟩
    simp only [turns, List.flatMap_append, List.append_assoc]
    rfl

/-- All that a new connection ever sends is sent in turns. -/
theorem sent_run_start (capacity : Nat) (events : List Event) :
    Framed ((start capacity).run events) ∧
      ((start capacity).run events).sent =
        ((start capacity).turns events).flatMap Turn.bytes ++
          ((start capacity).run events).part := by
  -- At the start nothing has been sent, and no turn is under way.
  have begun : (start capacity).sent = [] ++ (start capacity).part := rfl
  simpa using sent_run (.start capacity) (.start capacity) begun events

end TemplateFacts.Wire.Connection
