import TemplateFacts.Proofs.Wire.Life

/-!
Two connections that differ only in what has come for requests that were given up are alike: they
do the same at every event, and no other request can tell one from the other.
-/

namespace TemplateFacts.Wire.Connection

/-- The connection without its requests, and without those who wait. -/
def bare (c : Connection) : Connection :=
  { c with calls := [], table := { c.table with waiters := [] } }

/-- Two connections differ only in what has come for requests that were given up. -/
structure Alike (c d : Connection) : Prop where
  stage : ∀ id, c.stageOf? id = d.stageOf? id
  request : ∀ id, c.requestOf? id = d.requestOf? id
  slot : ∀ id, c.stageOf? id ≠ some .abandoned → c.slotOf? id = d.slotOf? id
  waits : ∀ id, c.stageOf? id ≠ some .abandoned →
    (id ∈ c.table.waiters ↔ id ∈ d.table.waiters)
  rest : c.bare = d.bare

namespace Alike

variable {c d : Connection} {id : Nat}

/-- Every connection is like itself. -/
theorem refl (c : Connection) : Alike c c where
  stage _ := rfl
  request _ := rfl
  slot _ _ := rfl
  waits _ _ := Iff.rfl
  rest := rfl

/-- One of two alike connections is the other one with other requests and other waiters. -/
theorem same (a : Alike c d) : ∃ calls waiters,
    d = { c with calls, table := { c.table with waiters } } := by
  -- All fields but the calls and those that wait are in the rest.
  refine ⟨d.calls, d.table.waiters, ?_⟩
  have rest := a.rest
  cases c
  cases d
  simp only [bare, mk.injEq, Table.mk.injEq, and_true, true_and] at rest
  simp [rest]

/-- Alike connections have equally many requests. -/
theorem count (a : Alike c d) : c.calls.length = d.calls.length := by
  -- A place without a stage is behind all requests.
  have beyond (c d : Connection) (same : ∀ id, c.stageOf? id = d.stageOf? id) :
      d.calls.length ≤ c.calls.length := by
    have none := same c.calls.length
    rw [stageOf?, List.getElem?_eq_none (Nat.le_refl _)] at none
    exact List.getElem?_eq_none_iff.mp (Option.map_eq_none_iff.mp none.symm)
  exact Nat.le_antisymm (beyond d c fun id => (a.stage id).symm) (beyond c d a.stage)

/-- What is changed in the same way without regard to requests stays alike. -/
theorem edit (a : Alike c d) (f : Connection → Connection) (calls : ∀ b, (f b).calls = b.calls)
    (waiters : ∀ b, (f b).table.waiters = b.table.waiters) (bare : ∀ b, (f b).bare = f b.bare) :
    Alike (f c) (f d) where
  stage id := by simpa only [stageOf?, calls] using a.stage id
  request id := by simpa only [requestOf?, calls] using a.request id
  slot id := by simpa only [stageOf?, slotOf?, calls] using a.slot id
  waits id := by simpa only [stageOf?, calls, waiters] using a.waits id
  rest := by rw [bare, bare, a.rest]

/-- A request may move on both sides, unless it has given up and would come back. -/
theorem moveTo (a : Alike c d) {stage : Stage}
    (present : c.stageOf? id ≠ some .abandoned ∨ stage = .abandoned) :
    Alike (c.moveTo id stage) (d.moveTo id stage) := by
  -- Whoever has not given up now had not given up before.
  have before (other : Nat) (now : (c.moveTo id stage).stageOf? other ≠ some .abandoned) :
      c.stageOf? other ≠ some .abandoned := by
    intro abandoned
    rw [stageOf?_moveTo] at now
    split at now
    · rename_i same
      subst same
      rcases present with notYet | rfl
      · exact notYet abandoned
      · simp [abandoned] at now
    · exact now abandoned
  constructor
  · intro other
    simp [a.stage other]
  · intro other
    simp [a.request other]
  · intro other now
    simpa using a.slot other (before other now)
  · intro other now
    exact a.waits other (before other now)
  · exact a.rest

/-- The same reply may be brought on both sides. -/
theorem bring (a : Alike c d) (test : Nat → Bool) (reply : Reply) :
    Alike (c.bring test reply) (d.bring test reply) := by
  -- Who is present on both sides waits on both sides, so that the test picks the same requests.
  constructor
  · intro id
    simp [a.stage id]
  · intro id
    simp [a.request id]
  · intro id present
    rw [stageOf?_bring] at present
    simp only [slotOf?_bring, a.slot id present, a.waits id present, a.count]
  · intro id present
    rw [stageOf?_bring] at present
    simp only [mem_waiters_bring, a.waits id present]
  · exact a.rest

theorem withdraw (a : Alike c d) (writer : Writer) :
    Alike (c.withdraw writer) (d.withdraw writer) :=
  a.edit (fun b => b.withdraw writer) (fun _ => rfl) (fun _ => rfl) (fun _ => rfl)

theorem freeWriter (a : Alike c d) : Alike c.freeWriter d.freeWriter :=
  a.edit Connection.freeWriter (fun _ => rfl) (fun _ => rfl) (fun _ => rfl)

theorem closeTable (a : Alike c d) : Alike c.closeTable d.closeTable := by
  -- Nobody waits behind a closed table.
  have released := a.bring (fun _ => true) .released
  constructor
  · exact released.stage
  · exact released.request
  · exact released.slot
  · intro id _
    simp [Connection.closeTable]
  · exact congrArg (fun b => { b with table := ⟨true, []⟩ }) a.rest

theorem endReading (a : Alike c d) : Alike c.endReading d.endReading :=
  a.closeTable.edit (fun b => { b with reader := .ended }) (fun _ => rfl) (fun _ => rfl)
    (fun _ => rfl)

theorem issue (a : Alike c d) (request : Request) :
    Alike (c.step (.issue request)) (d.step (.issue request)) := by
  -- The new request is the same on both sides, and stands behind equally many.
  constructor
  · intro id
    have old := a.stage id
    simp only [stageOf?] at old
    -- A request is an old one, or the one that is new.
    simp only [stageOf?, step, List.getElem?_append, a.count]
    split
    · exact old
    · rfl
  · intro id
    have old := a.request id
    simp only [requestOf?] at old
    simp only [requestOf?, step, List.getElem?_append, a.count]
    split
    · exact old
    · rfl
  · intro id present
    have old := a.slot id
    simp only [stageOf?, slotOf?] at old
    simp only [stageOf?, step, List.getElem?_append] at present
    simp only [slotOf?, step, List.getElem?_append, a.count] at present ⊢
    split
    · rename_i within
      rw [if_pos within] at present
      exact old present
    · rfl
  · intro id present
    refine a.waits id fun abandoned => present ?_
    simpa [stageOf?, step, List.getElem?_append_left (lt_of_stageOf? abandoned)] using abandoned
  · exact a.rest

theorem register (a : Alike c d) (id : Nat) : Alike (c.register id) (d.register id) := by
  -- Both register or neither does, since stages and the end of the table are alike.
  have closed : d.table.closed = c.table.closed := by obtain ⟨_, _, rfl⟩ := a.same; rfl
  unfold Connection.register
  rw [← a.stage, closed]
  split
  · rename_i fresh
    split
    · exact a.moveTo (.inl (by simp [fresh]))
    · -- The place with the number is given to the new one, whoever had it before.
      have moved : Alike ((c.replyTo (numberAt id) .released).moveTo id .registered)
          ((d.replyTo (numberAt id) .released).moveTo id .registered) :=
        (a.bring (fun other => numberAt other == numberAt id) .released).moveTo
          (.inl (by simp [fresh]))
      constructor
      · exact moved.stage
      · exact moved.request
      · exact moved.slot
      · intro other present
        have both := moved.waits other present
        simp only [table_moveTo] at both
        simp only [table_moveTo, List.mem_append, both]
      · exact moved.rest
  · exact a

theorem queue (a : Alike c d) (id : Nat) : Alike (c.queue id) (d.queue id) := by
  -- Both queue up or neither does.
  unfold Connection.queue
  rw [← a.stage]
  split
  · rename_i registered
    exact (a.moveTo (.inl (by simp [registered]))).edit
      (fun b => { b with line := b.line ++ [.call id] }) (fun _ => rfl) (fun _ => rfl)
      (fun _ => rfl)
  · exact a

theorem grant (a : Alike c d) (o : Orderly c) : Alike c.grant d.grant := by
  obtain ⟨calls, waiters, rfl⟩ := a.same
  unfold Connection.grant
  simp only
  split
  · -- A request is granted the right to write.
    rename_i id line _ first
    have queued : c.stageOf? id = some .queued := o.stageOf?_first first
    -- Both sides have the same frame to write.
    have asks := a.request id
    simp only [requestOf?] at asks
    cases here : c.calls[id]? with
    | none => simp [stageOf?, here] at queued
    | some call =>
      cases there : calls[id]? with
      | none => simp [here, there] at asks
      | some call' =>
        have same : call.request = call'.request := by simpa [here, there] using asks
        simp only [same]
        exact (a.moveTo (.inl (by simp [queued]))).edit
          (fun b => { b with line, holder := some (.call id, requestFrame id call'.request) })
          (fun _ => rfl) (fun _ => rfl) (fun _ => rfl)
  · -- Otherwise the reader is, or nobody asks for it.
    rename_i line _ _
    split
    · rename_i frame _
      exact a.edit (fun b => { b with line, holder := some (.reader, frame) }) (fun _ => rfl)
        (fun _ => rfl) (fun _ => rfl)
    · exact a.edit (fun b => { b with line }) (fun _ => rfl) (fun _ => rfl) (fun _ => rfl)
  · -- Somebody who closes shuts the connection, which no request notices.
    rename_i index line _ _
    exact a.edit (fun b => { b with
      line, shut := true, closings := c.closings.set index (.done (.ok ())) }) (fun _ => rfl)
      (fun _ => rfl) (fun _ => rfl)
  · exact a

theorem write (a : Alike c d) (o : Orderly c) (count : Nat) : Alike (c.write count) (d.write count) := by
  -- The writer and the pipe are in the rest, which both share.
  obtain ⟨calls, waiters, rfl⟩ := a.same
  unfold Connection.write
  simp only
  split
  · exact a
  · rename_i writer bytes holds
    split
    · exact a
    · -- Both sides have the same holder, and so write the same bytes.
      have wrote := a.edit (fun b => { b with
          outbound := c.outbound ++ bytes.take (min count (c.capacity - c.outbound.length))
          holder := some (writer, bytes.drop (min count (c.capacity - c.outbound.length))) })
        (fun _ => rfl) (fun _ => rfl) (fun _ => rfl)
      split
      · -- Once all is written the writer goes on.
        cases writer with
        | call id =>
          have writing : c.stageOf? id = some .writing := o.stageOf?_holder holds
          exact (wrote.moveTo (.inl fun abandoned => by
            cases writing.symm.trans abandoned)).freeWriter
        | reader =>
          exact (wrote.edit (fun b => { b with reader := .reading }) (fun _ => rfl) (fun _ => rfl)
            (fun _ => rfl)).freeWriter
        | closing index => exact wrote.freeWriter
      · exact wrote

theorem failWrite (a : Alike c d) (o : Orderly c) (fault : IoFault) :
    Alike (c.failWrite fault) (d.failWrite fault) := by
  obtain ⟨calls, waiters, rfl⟩ := a.same
  unfold Connection.failWrite
  simp only
  -- By whose writing fails: a request has to be told, and nobody else.
  split
  · exact a
  · rename_i id bytes holds
    have writing : c.stageOf? id = some .writing := o.stageOf?_holder holds
    exact ((a.moveTo (.inl (by simp [writing]))).bring _ _).freeWriter
  · exact (a.edit (fun b => { b with reader := .reading }) (fun _ => rfl) (fun _ => rfl)
      (fun _ => rfl)).freeWriter
  · exact a.freeWriter

/-- Taking a reply depends only on stage, request and slot. -/
theorem finish_eq (c : Connection) (id : Nat) :
    c.finish id =
      match c.stageOf? id, c.requestOf? id, c.slotOf? id with
      | some .waiting, some request, some reply =>
        c.moveTo id (.finished (outcomeOf request reply))
      | _, _, _ => c := by
  -- The three things that decide are read from one call.
  unfold Connection.finish
  cases found : c.calls[id]? with
  | none => simp [stageOf?, found]
  | some call =>
    obtain ⟨request, stage, slot⟩ := call
    cases slot <;> cases stage <;> simp [stageOf?, requestOf?, slotOf?, found]

theorem finish (a : Alike c d) (id : Nat) : Alike (c.finish id) (d.finish id) := by
  -- An abandoned call does nothing; any other one has the same slot on both sides.
  rw [finish_eq, finish_eq, ← a.stage, ← a.request]
  by_cases present : c.stageOf? id = some .abandoned
  · simpa only [present] using a
  · rw [← a.slot id present]
    split
    · exact a.moveTo (.inl present)
    · exact a

theorem abandon (a : Alike c d) (id : Nat) : Alike (c.abandon id) (d.abandon id) := by
  -- Both are abandoned, and withdraw from the line alike.
  unfold Connection.abandon
  rw [← a.stage]
  split
  · exact a
  · exact a
  · exact (a.moveTo (.inr rfl)).withdraw (.call id)

theorem takePayload (a : Alike c d) (payload : List UInt8) :
    Alike (c.takePayload payload) (d.takePayload payload) := by
  unfold Connection.takePayload
  -- A payload comes to the same on both sides, as it is looked at before the requests are.
  split
  · unfold takeMessage
    split
    · exact a.bring _ _
    · rename_i m _ _ _ id method _ _
      exact a.edit (fun b => { b with
        reader := .refusing (writeFrame (refusalPayload id method))
        line := b.line ++ [.reader] }) (fun _ => rfl) (fun _ => rfl) (fun _ => rfl)
    · split
      · exact a.bring _ _
      · exact a
  · exact a

theorem read (a : Alike c d) : Alike c.read d.read := by
  obtain ⟨calls, waiters, rfl⟩ := a.same
  unfold Connection.read
  simp only
  -- Both sides have the same bytes, and so find the same in them.
  split
  · split
    · exact a
    · rename_i payload rest _
      exact (a.edit (fun b => { b with inbound := rest }) (fun _ => rfl) (fun _ => rfl)
        (fun _ => rfl)).takePayload payload
    · exact a.endReading
    · split
      · exact (a.bring _ _).endReading
      · exact a.endReading
  · exact a

theorem failRead (a : Alike c d) : Alike c.failRead d.failRead := by
  -- The reader is in the rest, which both share.
  obtain ⟨calls, waiters, rfl⟩ := a.same
  unfold Connection.failRead
  simp only
  split
  · exact a.endReading
  · exact a

theorem close (a : Alike c d) : Alike c.close d.close :=
  (a.closeTable.withdraw .reader).edit (fun b => { b with
    reader := .ended
    closings := b.closings ++ [.waiting]
    line := b.line ++ [.closing b.closings.length] }) (fun _ => rfl) (fun _ => rfl) (fun _ => rfl)

theorem failShut (a : Alike c d) (fault : IoFault) : Alike (c.failShut fault) (d.failShut fault) := by
  -- The line and the closings are in the rest, which both share.
  obtain ⟨calls, waiters, rfl⟩ := a.same
  unfold Connection.failShut
  simp only
  split
  · rename_i index line _ _
    exact a.edit (fun b => { b with
      line, closings := c.closings.set index (.done (.error (.io fault))) }) (fun _ => rfl)
      (fun _ => rfl) (fun _ => rfl)
  · exact a

theorem giveUp (a : Alike c d) (index : Nat) : Alike (c.giveUp index) (d.giveUp index) := by
  -- The closings are in the rest, which both share.
  obtain ⟨calls, waiters, rfl⟩ := a.same
  unfold Connection.giveUp
  simp only
  split
  · exact (a.withdraw (.closing index)).edit (fun b => { b with
      closings := c.closings.set index (.done (.error (.io (.closeTimeout closeTime)))) })
      (fun _ => rfl) (fun _ => rfl) (fun _ => rfl)
  · exact a

/-- Alike connections do the same at every event. -/
theorem step (a : Alike c d) (o : Orderly c) (event : Event) : Alike (c.step event) (d.step event) := by
  -- By the events, for each of which likeness was shown to be kept.
  cases event with
  | issue request => exact a.issue request
  | register id => exact a.register id
  | queue id => exact a.queue id
  | grant => exact a.grant o
  | write count => exact a.write o count
  | failWrite fault => exact a.failWrite o fault
  | finish id => exact a.finish id
  | abandon id => exact a.abandon id
  | arrive bytes =>
    obtain ⟨calls, waiters, rfl⟩ := a.same
    simp only [Connection.step]
    split
    · exact a
    · exact a.edit (fun b => { b with inbound := b.inbound ++ bytes }) (fun _ => rfl)
        (fun _ => rfl) (fun _ => rfl)
  | endInbound =>
    exact a.edit (fun b => { b with inboundEnded := true }) (fun _ => rfl) (fun _ => rfl)
      (fun _ => rfl)
  | read => exact a.read
  | failRead => exact a.failRead
  | deliver count =>
    exact a.edit (fun b => { b with
      outbound := b.outbound.drop count
      delivered := b.delivered ++ b.outbound.take count }) (fun _ => rfl) (fun _ => rfl)
      (fun _ => rfl)
  | hangUp =>
    exact a.edit (fun b => { b with inboundEnded := true, peerGone := true }) (fun _ => rfl)
      (fun _ => rfl) (fun _ => rfl)
  | close => exact a.close
  | failShut fault => exact a.failShut fault
  | giveUp index => exact a.giveUp index

/-- Alike connections stay alike in every run. -/
theorem run (a : Alike c d) (o : Orderly c) (events : List Event) :
    Alike (c.run events) (d.run events) := by
  -- By induction on the events, each of which does the same on both sides.
  induction events generalizing c d with
  | nil => exact a
  | cons event events ih => exact ih (a.step o event) (o.step event)

end Alike

end TemplateFacts.Wire.Connection
