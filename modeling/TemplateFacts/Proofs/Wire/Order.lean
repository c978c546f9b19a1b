import Mathlib.Data.List.Nodup
import TemplateFacts.Proofs.Wire.View

/-!
The writer is handed on in order: who stands in line, who writes and who refuses agrees with the
stages of the requests and with the reader, and no event can change that.
-/

namespace TemplateFacts.Wire.Connection

/-- Who holds the writer. -/
def writer? (c : Connection) : Option Writer := c.holder.map Prod.fst

/-- Who withdraws holds the writer no more. -/
@[simp] theorem writer?_withdraw (c : Connection) (writer : Writer) :
    (c.withdraw writer).writer? = c.writer?.filter (· != writer) := by
  -- A holder that withdraws is dropped, and any other one is kept.
  cases holds : c.holder with
  | none => simp [writer?, withdraw, holds]
  | some held =>
    simp only [writer?, withdraw, holds, Option.filter, Option.map_some]
    split <;> rfl

/-- The line for the writer and its holder agree with what requests, reader and closes do. -/
structure InOrder (stages : Nat → Option Stage) (line : List Writer) (holder : Option Writer)
    (reader : Reader) (closes : Nat) : Prop where
  line_nodup : line.Nodup
  holder_left : ∀ writer, holder = some writer → writer ∉ line
  queued : ∀ id, Writer.call id ∈ line ↔ stages id = some .queued
  writing : ∀ id, holder = some (.call id) ↔ stages id = some .writing
  refusing : (Writer.reader ∈ line ∨ holder = some .reader) ↔ ∃ frame, reader = .refusing frame
  closing_known : ∀ index, Writer.closing index ∈ line → index < closes
  closing_brief : ∀ index, holder ≠ some (.closing index)

/-- The connection hands its writer on in order. -/
def Orderly (c : Connection) : Prop :=
  -- Only these parts of a connection have to do with the order.
  InOrder c.stageOf? c.line c.writer? c.reader c.closings.length

namespace InOrder

variable {stages : Nat → Option Stage} {line : List Writer} {holder : Option Writer}
  {reader : Reader} {closes id : Nat} {writer : Writer}

/-- The order depends on the stages only through who is queued and who writes. -/
theorem congr (o : InOrder stages line holder reader closes) {stages' : Nat → Option Stage}
    (queued : ∀ id, stages' id = some .queued ↔ stages id = some .queued)
    (writing : ∀ id, stages' id = some .writing ↔ stages id = some .writing) :
    InOrder stages' line holder reader closes where
  line_nodup := o.line_nodup
  holder_left := o.holder_left
  queued id := (o.queued id).trans (queued id).symm
  writing id := (o.writing id).trans (writing id).symm
  refusing := o.refusing
  closing_known := o.closing_known
  closing_brief := o.closing_brief

/-- A writer that neither stands in line nor holds the writer may go to the end of the line. -/
theorem line_concat (o : InOrder stages line holder reader closes) (absent : writer ∉ line)
    (idle : holder ≠ some writer) :
    (line ++ [writer]).Nodup ∧ ∀ other, holder = some other → other ∉ line ++ [writer] := by
  -- The new one stands last, and is neither among the others nor the holder.
  constructor
  · rw [← List.concat_eq_append]
    exact o.line_nodup.concat absent
  · intro other holds member
    rcases List.mem_append.mp member with earlier | last
    · exact o.holder_left other holds earlier
    · rw [List.mem_singleton] at last
      exact idle (last ▸ holds)

/-- A request that neither stands in line nor writes may go to the end of the line. -/
theorem enqueue (o : InOrder stages line holder reader closes) (stages' : Nat → Option Stage)
    (notQueued : stages id ≠ some .queued) (notWriting : stages id ≠ some .writing)
    (here : stages' id = some .queued) (others : ∀ other ≠ id, stages' other = stages other) :
    InOrder stages' (line ++ [.call id]) holder reader closes := by
  -- The request itself was not in line, and nobody else moves.
  have absent : Writer.call id ∉ line := fun member => notQueued ((o.queued id).mp member)
  have idle : holder ≠ some (.call id) := fun holds => notWriting ((o.writing id).mp holds)
  obtain ⟨nodup, left⟩ := o.line_concat absent idle
  refine ⟨nodup, left, ?_, ?_, ?_, ?_, ?_⟩
  · -- The line has the request now, and nobody else.
    intro other
    by_cases same : other = id
    · subst same; simp [here]
    · simp [others other same, ← o.queued, same]
  · -- The holder is who it was, and it is not the request.
    intro other
    by_cases same : other = id
    · subst same; simp [here, idle]
    · rw [others other same]; exact o.writing other
  · simpa using o.refusing
  · intro index member
    exact o.closing_known index (by simpa using member)
  · exact o.closing_brief

/-- The first request in line may take the free writer. -/
theorem grantCall (o : InOrder stages (.call id :: line) none reader closes)
    (stages' : Nat → Option Stage) (here : stages' id = some .writing)
    (others : ∀ other ≠ id, stages' other = stages other) :
    InOrder stages' line (some (.call id)) reader closes := by
  -- It stood in line once, so that it stands there no more.
  have absent : Writer.call id ∉ line := (List.nodup_cons.mp o.line_nodup).1
  constructor
  · exact (List.nodup_cons.mp o.line_nodup).2
  · rintro writer ⟨⟩
    exact absent
  · -- The request leaves the line.
    intro other
    by_cases same : other = id
    · subst same; simp [here, absent]
    · rw [others other same, ← o.queued]; simp [same]
  · -- It is the holder now.
    intro other
    by_cases same : other = id
    · subst same; simp [here]
    · rw [others other same, ← o.writing]; simp [Ne.symm same]
  · simpa using o.refusing
  · intro index member
    exact o.closing_known index (List.mem_cons_of_mem _ member)
  · simp

/-- The reader may take the free writer when it is first in line. -/
theorem grantReader (o : InOrder stages (.reader :: line) none reader closes) :
    InOrder stages line (some .reader) reader closes := by
  -- It was in line once, and so is not in what is left of the line.
  have absent : Writer.reader ∉ line := (List.nodup_cons.mp o.line_nodup).1
  constructor
  · exact (List.nodup_cons.mp o.line_nodup).2
  · rintro writer ⟨⟩
    exact absent
  · intro id; rw [← o.queued]; simp
  · intro id; rw [← o.writing]; simp
  · simpa using o.refusing
  · intro index member
    exact o.closing_known index (List.mem_cons_of_mem _ member)
  · simp

/-- A writer may leave the line, and the writer it may hold, when it has nothing to write. -/
theorem withdraw (o : InOrder stages line holder reader closes) (writer : Writer)
    (stages' : Nat → Option Stage) (reader' : Reader)
    (isCall : ∀ id, writer = .call id → stages' id ≠ some .queued ∧ stages' id ≠ some .writing)
    (others : ∀ id, writer ≠ .call id → stages' id = stages id)
    (isReader : writer = .reader → ∀ frame, reader' ≠ .refusing frame)
    (notReader : writer ≠ .reader → reader' = reader) :
    InOrder stages' (line.filter (· != writer)) (holder.filter (· != writer)) reader' closes := by
  -- The others keep their places; what is said of the writer holds as it has nothing to write.
  constructor
  · exact o.line_nodup.filter _
  · -- The holder, if it stays, stood out of line before.
    intro other holds member
    rw [Option.filter_eq_some_iff] at holds
    exact o.holder_left other holds.1 (List.mem_filter.mp member).1
  · -- A request other than the writer is in line, or holds, as before.
    intro id
    by_cases same : writer = .call id
    · simp [same, isCall id same]
    · rw [others id same, ← o.queued]; simp [Ne.symm same]
  · intro id
    by_cases same : writer = .call id
    · simp [same, isCall id same, Option.filter_eq_some_iff]
    · rw [others id same, ← o.writing]; simp [Ne.symm same, Option.filter_eq_some_iff]
  · by_cases same : writer = .reader
    · simp [same, isReader same, Option.filter_eq_some_iff]
    · rw [notReader same, ← o.refusing]; simp [Ne.symm same, Option.filter_eq_some_iff]
  · intro index member
    exact o.closing_known index (List.mem_filter.mp member).1
  · intro index holds
    rw [Option.filter_eq_some_iff] at holds
    exact o.closing_brief index holds.1

/-- A holder that has nothing left to write frees the writer. -/
theorem release (o : InOrder stages line (some writer) reader closes)
    (stages' : Nat → Option Stage) (reader' : Reader)
    (isCall : ∀ id, writer = .call id → stages' id ≠ some .queued ∧ stages' id ≠ some .writing)
    (others : ∀ id, writer ≠ .call id → stages' id = stages id)
    (isReader : writer = .reader → ∀ frame, reader' ≠ .refusing frame)
    (notReader : writer ≠ .reader → reader' = reader) :
    InOrder stages' line none reader' closes := by
  -- The holder is not in line, which so stays as it is.
  have apart : line.filter (· != writer) = line := by
    rw [List.filter_eq_self]
    intro other member
    exact bne_iff_ne.mpr fun same => o.holder_left writer rfl (same ▸ member)
  simpa [apart, Option.filter] using o.withdraw writer stages' reader' isCall others isReader notReader

/-- The reader goes to the end of the line when it has something to refuse. -/
theorem enqueueReader (o : InOrder stages line holder .reading closes) (frame : List UInt8) :
    InOrder stages (line ++ [.reader]) holder (.refusing frame) closes := by
  -- A reader that reads is neither in line nor holds the writer.
  have away : ¬ (Writer.reader ∈ line ∨ holder = some .reader) := by simp [o.refusing]
  rw [not_or] at away
  obtain ⟨nodup, left⟩ := o.line_concat away.1 away.2
  refine ⟨nodup, left, ?_, ?_, ?_, ?_, ?_⟩
  · simpa using o.queued
  · exact o.writing
  · simp
  · simpa using o.closing_known
  · exact o.closing_brief

/-- A close goes to the end of the line under an index that no other close has. -/
theorem enqueueClosing (o : InOrder stages line holder reader closes) :
    InOrder stages (line ++ [.closing closes]) holder reader (closes + 1) := by
  -- All closes in line or at the writer have lower indices.
  have absent : Writer.closing closes ∉ line :=
    fun member => Nat.lt_irrefl _ (o.closing_known closes member)
  obtain ⟨nodup, left⟩ := o.line_concat absent (o.closing_brief closes)
  refine ⟨nodup, left, ?_, ?_, ?_, ?_, ?_⟩
  · simpa using o.queued
  · exact o.writing
  · simpa using o.refusing
  · intro index member
    rcases List.mem_append.mp member with earlier | last
    · exact Nat.lt_succ_of_lt (o.closing_known index earlier)
    · simp at last; omega
  · exact o.closing_brief

/-- A close that is first in line is done as soon as the writer is free. -/
theorem grantClosing {index : Nat} (o : InOrder stages (.closing index :: line) none reader closes) :
    InOrder stages line none reader closes where
  line_nodup := (List.nodup_cons.mp o.line_nodup).2
  holder_left := by simp
  queued id := by rw [← o.queued]; simp
  writing id := by rw [← o.writing]
  refusing := by simpa using o.refusing
  closing_known index member := o.closing_known index (List.mem_cons_of_mem _ member)
  closing_brief := by simp

/-- A reader that has nothing to refuse may read, or may have ended. -/
theorem readerIdle (o : InOrder stages line holder reader closes) (reader' : Reader)
    (idle : ∀ frame, reader ≠ .refusing frame) (idle' : ∀ frame, reader' ≠ .refusing frame) :
    InOrder stages line holder reader' closes :=
  { o with refusing := by rw [o.refusing]; simp [idle, idle'] }

end InOrder

namespace Orderly

variable {c : Connection} {id : Nat}

/-- A new connection is in order. -/
theorem start (capacity : Nat) : Orderly (start capacity) := by
  constructor <;> simp [Connection.start, writer?, stageOf?]

/-- A request that is not queued and does not write may move to any such stage. -/
theorem moveTo (o : Orderly c) {old : Stage} (stage : Stage) (here : c.stageOf? id = some old)
    (oldIdle : old ≠ .queued ∧ old ≠ .writing) (newIdle : stage ≠ .queued ∧ stage ≠ .writing) :
    Orderly (c.moveTo id stage) := by
  -- Neither the old stage nor the new one has to do with the writer, so that nobody's place changes.
  refine InOrder.congr o ?_ ?_
  all_goals
    intro other
    by_cases same : id = other
    · subst same; simp [here, oldIdle, newIdle]
    · simp [same]

/-- Replies leave the order alone. -/
theorem bring (o : Orderly c) (test : Nat → Bool) (reply : Reply) : Orderly (c.bring test reply) :=
  InOrder.congr o (by simp) (by simp)

theorem register (o : Orderly c) (id : Nat) : Orderly (c.register id) := by
  -- A registered request writes nothing yet; one with the same number only loses its place in the
  -- table.
  unfold Connection.register
  split
  · rename_i fresh
    split
    · exact o.moveTo _ fresh (by simp) (by simp)
    · exact (o.bring (fun other => numberAt other == numberAt id) .released).moveTo
        .registered ((stageOf?_bring ..).trans fresh) (by simp) (by simp)
  · exact o

theorem queue (o : Orderly c) (id : Nat) : Orderly (c.queue id) := by
  -- The request goes to the end of the line, and no other one changes its stage.
  unfold Connection.queue
  split
  · rename_i registered
    refine InOrder.enqueue o (c.moveTo id .queued).stageOf? ?_ ?_ ?_ ?_
    · simp [registered]
    · simp [registered]
    · simp [registered]
    · intro other different; simp [Ne.symm different]
  · exact o

theorem grant (o : Orderly c) : Orderly c.grant := by
  -- The first in line has waited for what it now gets.
  unfold Connection.grant
  split
  · -- A request is first.
    rename_i id line free first
    have o : InOrder c.stageOf? (.call id :: line) none c.reader c.closings.length := by
      simpa [Orderly, writer?, free, first] using o
    have queued : c.stageOf? id = some .queued := (o.queued id).mp List.mem_cons_self
    cases found : c.calls[id]? with
    | none => simp [stageOf?, found] at queued
    | some call =>
      refine InOrder.grantCall o (c.moveTo id .writing).stageOf? ?_ ?_
      · simp [queued]
      · intro other different; simp [Ne.symm different]
  · -- The reader is first, with a frame to refuse with.
    rename_i line free first
    have o : InOrder c.stageOf? (.reader :: line) none c.reader c.closings.length := by
      simpa [Orderly, writer?, free, first] using o
    obtain ⟨frame, refusing⟩ := o.refusing.mp (.inl List.mem_cons_self)
    split
    · exact o.grantReader
    · rename_i idle; exact absurd refusing (idle frame)
  · -- A close is first, and is done at once.
    rename_i index line free first
    have o : InOrder c.stageOf? (.closing index :: line) none c.reader c.closings.length := by
      simpa [Orderly, writer?, free, first] using o
    have granted := o.grantClosing
    rw [show (none : Option Writer) = c.writer? by simp [writer?, free]] at granted
    have count : (c.closings.set index (.done (.ok ()))).length = c.closings.length :=
      List.length_set
    rw [← count] at granted
    exact granted
  · exact o

/-- The holder of the writer frees it when it has written all. -/
theorem written (o : Orderly c) {writer : Writer} (holds : c.writer? = some writer) :
    Orderly (c.written writer) := by
  -- The stage of the holder is left, and the writer is free for the next in line.
  have o : InOrder c.stageOf? c.line (some writer) c.reader c.closings.length := holds ▸ o
  cases writer with
  | call id =>
    refine o.release (c.moveTo id .waiting).stageOf? _ ?_ ?_ (by simp) (fun _ => rfl)
    · rintro _ ⟨⟩
      simp [(o.writing id).mp rfl]
    · intro other different
      simp [show id ≠ other from fun same => different (same ▸ rfl)]
  | reader => exact o.release _ .reading (by simp) (fun _ _ => rfl) (by simp) (by simp)
  | closing index => exact absurd rfl (o.closing_brief index)

theorem write (o : Orderly c) (count : Nat) : Orderly (c.write count) := by
  -- Bytes go to the pipe as far as there is room, and the holder leaves when its last byte does.
  unfold Connection.write
  split
  · exact o
  · rename_i writer bytes holds
    split
    · exact o
    · -- What is left to write says nothing about who writes.
      have o : Orderly { c with
          outbound := c.outbound ++ bytes.take (min count (c.capacity - c.outbound.length))
          holder := some (writer, bytes.drop (min count (c.capacity - c.outbound.length))) } := by
        rw [Orderly, writer?, holds] at o
        exact o
      simp only
      split
      · exact o.written rfl
      · exact o

theorem failWrite (o : Orderly c) (fault : IoFault) : Orderly (c.failWrite fault) := by
  unfold Connection.failWrite
  -- By who holds the writer: a request and the reader release it, and a close never holds it.
  split
  · exact o
  · rename_i id bytes holds
    have o : InOrder c.stageOf? c.line (some (.call id)) c.reader c.closings.length := by
      simpa only [Orderly, writer?, holds, Option.map_some] using o
    refine o.release ((c.moveTo id (.finished (.error (.io fault)))).replyTo
      (numberAt id) .released).stageOf? _ ?_ ?_ (by simp) (fun _ => rfl)
    · rintro _ ⟨⟩
      simp [replyTo, (o.writing id).mp rfl]
    · intro other different
      simp [replyTo, show id ≠ other from fun same => different (same ▸ rfl)]
  · rename_i bytes holds
    have o : InOrder c.stageOf? c.line (some .reader) c.reader c.closings.length := by
      simpa only [Orderly, writer?, holds, Option.map_some] using o
    exact o.release _ .reading (by simp) (fun _ _ => rfl) (by simp) (by simp)
  · rename_i index bytes holds
    exact absurd (by simp [writer?, holds]) (o.closing_brief index)

theorem finish (o : Orderly c) (id : Nat) : Orderly (c.finish id) := by
  -- A request that waits for its reply has left the writer behind.
  unfold Connection.finish
  split
  · rename_i request reply found
    have waiting : c.stageOf? id = some .waiting := by simp [stageOf?, found]
    exact o.moveTo _ waiting (by simp) (by simp)
  · exact o

/-- A request that is given up stands in line no more, and writes no more. -/
theorem abandon (o : Orderly c) (id : Nat) : Orderly (c.abandon id) := by
  -- Wherever the request stood, in the line or at the writer, it stands no more.
  unfold Connection.abandon
  split
  · exact o
  · exact o
  · rename_i stage here _
    have gone := InOrder.withdraw o (.call id) (c.moveTo id .abandoned).stageOf? c.reader (by rintro _ ⟨⟩; simp)
      (fun other different => by simp [show id ≠ other from fun same => different (same ▸ rfl)])
      (by simp) (by simp)
    rw [← writer?_withdraw] at gone
    exact gone

/-- What the reader does with a message keeps the order, as long as the reader reads. -/
theorem takeMessage (o : Orderly c) (reading : c.reader = .reading) (m : Message) :
    Orderly (c.takeMessage m) := by
  -- A refusal puts the reader in the line; other messages concern the table only.
  unfold Connection.takeMessage
  split
  · exact o.bring _ _
  · have o : InOrder c.stageOf? c.line c.writer? .reading c.closings.length := reading ▸ o
    exact o.enqueueReader _
  · split
    · exact o.bring _ _
    · exact o

theorem takePayload (o : Orderly c) (reading : c.reader = .reading) (payload : List UInt8) :
    Orderly (c.takePayload payload) := by
  -- What is no message changes nothing.
  unfold Connection.takePayload
  split
  · exact o.takeMessage reading _
  · exact o

/-- A reader that reads may end. -/
theorem endReading (o : Orderly c) (reading : c.reader = .reading) : Orderly c.endReading := by
  -- The table is emptied first, and then the reader stands still.
  have released : Orderly c.closeTable := o.bring (fun _ => true) .released
  have idle : c.closeTable.reader = .reading := reading
  exact InOrder.readerIdle released .ended (by simp [idle]) (by simp)

theorem read (o : Orderly c) : Orderly c.read := by
  unfold Connection.read
  -- Only a reader that is reading does anything, and it is not in line then.
  split
  · rename_i reading
    split
    · exact o
    · rename_i payload rest _
      exact takePayload (c := { c with inbound := rest }) o reading payload
    · exact o.endReading reading
    · split
      · exact endReading (o.bring _ _) reading
      · exact o.endReading reading
  · exact o

theorem failRead (o : Orderly c) : Orderly c.failRead := by
  -- The reader fails only where it reads.
  unfold Connection.failRead
  split
  · rename_i reading; exact o.endReading reading
  · exact o

/-- A close stops the reader, wherever it is, and goes to the end of the line. -/
theorem close (o : Orderly c) : Orderly c.close := by
  -- All requests are released and the reader withdraws, before the closing queues up.
  have released : Orderly c.closeTable := o.bring (fun _ => true) .released
  have gone := InOrder.withdraw released .reader c.closeTable.stageOf? .ended (by simp) (by simp)
    (by simp) (by simp)
  rw [← writer?_withdraw] at gone
  have count : c.close.closings.length = c.closings.length + 1 := by simp [Connection.close]
  rw [Orderly, count]
  exact gone.enqueueClosing

/-- A close that cannot shut the writing side leaves the line like one that can. -/
theorem failShut (o : Orderly c) (fault : IoFault) : Orderly (c.failShut fault) := by
  -- The closing at the head of the line has had its turn, so that the others move up.
  unfold Connection.failShut
  split
  · rename_i index line free first
    have o : InOrder c.stageOf? (.closing index :: line) none c.reader c.closings.length := by
      simpa [Orderly, writer?, free, first] using o
    have left := o.grantClosing
    have count : (c.closings.set index (.done (.error (.io fault)))).length = c.closings.length :=
      List.length_set
    rw [show (none : Option Writer) = c.writer? by simp [writer?, free], ← count] at left
    exact left
  · exact o

/-- A close that no longer waits leaves the line. -/
theorem giveUp (o : Orderly c) (index : Nat) : Orderly (c.giveUp index) := by
  -- The closing leaves the line, and its result is noted without changing their number.
  unfold Connection.giveUp
  split
  · have gone := InOrder.withdraw o (.closing index) c.stageOf? c.reader (by simp) (by simp)
      (by simp) (by simp)
    have count : (c.closings.set index
        (.done (.error (.io (.closeTimeout closeTime))))).length = c.closings.length :=
      List.length_set
    rw [← writer?_withdraw, ← count] at gone
    exact gone
  · exact o

/-- A new request stands nowhere yet. -/
theorem issue (o : Orderly c) (request : Request) : Orderly (c.step (.issue request)) := by
  -- The new call is fresh, and stands behind those that were there.
  refine InOrder.congr o ?_ ?_
  all_goals
    intro id
    simp only [stageOf?, step, List.getElem?_append]
    split
    · rfl
    · rename_i beyond
      rw [List.getElem?_eq_none (Nat.not_lt.mp beyond)]
      cases id - c.calls.length <;> simp

/-- Every event keeps the order. -/
theorem step (o : Orderly c) (event : Event) : Orderly (c.step event) := by
  -- By the events, for each of which the order was shown to be kept.
  cases event with
  | issue request => exact o.issue request
  | register id => exact o.register id
  | queue id => exact o.queue id
  | grant => exact o.grant
  | write count => exact o.write count
  | failWrite fault => exact o.failWrite fault
  | finish id => exact o.finish id
  | abandon id => exact o.abandon id
  | arrive bytes => simp only [Connection.step]; split <;> exact o
  | endInbound => exact o
  | read => exact o.read
  | failRead => exact o.failRead
  | deliver count => exact o
  | hangUp => exact o
  | close => exact o.close
  | failShut fault => exact o.failShut fault
  | giveUp index => exact o.giveUp index

/-- Every run of a connection that is in order keeps it in order. -/
theorem run (o : Orderly c) (events : List Event) : Orderly (c.run events) := by
  -- By induction on the events, each of which keeps the order.
  induction events generalizing c with
  | nil => exact o
  | cons event events ih => exact ih (o.step event)

end Orderly

end TemplateFacts.Wire.Connection
