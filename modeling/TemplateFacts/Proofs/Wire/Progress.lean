import Mathlib.Algebra.BigOperators.Group.Finset.Basic
import Mathlib.Algebra.Order.BigOperators.Group.Finset
import TemplateFacts.Proofs.Wire.Answered
import TemplateFacts.Proofs.Wire.Received

/-!
Progress: whatever a connection does next by itself, it comes to rest after finitely many events, and
at rest every request that the other side has answered is finished.
-/

namespace TemplateFacts.Wire

/-- The event is done by the connection itself, or by the other side in taking what is written. -/
def Event.IsOwn : Event → Prop
  | .register _ | .queue _ | .grant | .write _ | .finish _ | .read | .deliver _ => True
  | .issue _ | .arrive _ | .failWrite _ | .abandon _ | .endInbound | .failRead | .hangUp | .close
  | .failShut _ | .giveUp _ => False

/-- An event of the connection itself is smooth, brings no bytes and makes no request. -/
theorem Event.IsOwn.smooth {event : Event} (own : event.IsOwn) :
    event.IsSmooth ∧ event.arrived = [] ∧ Connection.asked event = [] := by
  -- The connection's own events bring nothing in and ask for nothing.
  cases event with
  | issue | arrive | failWrite | abandon | endInbound | failRead | hangUp | close | failShut | giveUp =>
    exact own.elim
  | _ => exact ⟨trivial, rfl, rfl⟩

/-- How much a request still has to do, given the length of its frame and of what is left of it. -/
def Stage.weight (frame left : Nat) : Stage → Nat
  | .fresh => frame + 5
  | .registered => frame + 4
  | .queued => frame + 3
  | .writing => left + 2
  | .waiting => 1
  | .finished _ => 0
  | .abandoned => 0

namespace Connection

variable {c : Connection} {event : Event}

/-- The connection does nothing more by itself. -/
def Resting (c : Connection) : Prop := ∀ event : Event, event.IsOwn → c.step event = c

/-- Whatever the connection does by itself, one event after another, it comes to rest, and then to
what is wanted. -/
inductive Comes (goal : Connection → Prop) : Connection → Prop where
  | rests {c : Connection} (resting : Resting c) (there : goal c) : Comes goal c
  | goes {c : Connection} (moving : ¬ Resting c)
      (on : ∀ event : Event, event.IsOwn → c.step event ≠ c → Comes goal (c.step event)) :
      Comes goal c

section Rank

/-- The number of bytes that the holder of the writer has left to write. -/
def leftToWrite (c : Connection) : Nat :=
  match c.holder with
  | some (_, left) => left.length
  | none => 0

/-- How much the request at a place still has to do. -/
def weightAt (c : Connection) (id : Nat) : Nat :=
  match c.stageOf? id, c.requestOf? id with
  | some stage, some request => Stage.weight (requestFrame id request).length c.leftToWrite stage
  | _, _ => 0

/-- How much all requests still have to do. -/
def effort (c : Connection) : Nat := ∑ id ∈ Finset.range c.calls.length, c.weightAt id

/-- The number of bytes under way. -/
def pending (c : Connection) : Nat := c.outbound.length + c.inbound.length

/-- A request at a place has a weight. -/
theorem weightAt_eq {id : Nat} {stage : Stage} {request : Request}
    (found : c.stageOf? id = some stage) (asks : c.requestOf? id = some request) :
    c.weightAt id = Stage.weight (requestFrame id request).length c.leftToWrite stage := by
  rw [weightAt, found, asks]

/-- Own events make no requests. -/
theorem length_step (own : event.IsOwn) : (c.step event).calls.length = c.calls.length := by
  -- An event of the connection's own asks for no request.
  have counted := congrArg List.length (requests_step c event)
  rw [own.smooth.2.2, List.append_nil] at counted
  simpa [requests] using counted

/-- The holder of the writer has ever less to write while it holds it. -/
theorem leftToWrite_step (o : Orderly c) {id : Nat} (before : c.stageOf? id = some .writing)
    (after : (c.step event).stageOf? id = some .writing) :
    (c.step event).leftToWrite ≤ c.leftToWrite := by
  -- Whoever writes before and after holds the writer all the time.
  have holds : (c.step event).writer? = some (.call id) := ((o.step event).writing id).mpr after
  have held : c.writer? = some (.call id) := (o.writing id).mpr before
  rcases hands_step o event with ⟨same, _, _⟩ | ⟨_, _, free, _, _, _⟩ |
    ⟨writer, bytes, left, held', holds', _, _, _⟩ | ⟨_, _, _, _, _, free, _⟩ | ⟨_, _, _, free, _, _⟩
  · rw [leftToWrite, same]
    exact Nat.le_refl _
  · simp [writer?, free] at held
  · simp only [leftToWrite, held', holds', List.length_append]
    omega
  · simp [writer?, free] at holds
  · simp [writer?, free] at holds

/-- A request that takes the writer has its whole frame left to write. -/
theorem leftToWrite_granted (o : Orderly c) {id : Nat} {request : Request}
    (before : c.stageOf? id = some .queued) (after : (c.step event).stageOf? id = some .writing)
    (asks : (c.step event).requestOf? id = some request) :
    (c.step event).leftToWrite = (requestFrame id request).length := by
  -- The writer is taken at this event, and all of the frame is left.
  have holds : (c.step event).writer? = some (.call id) := ((o.step event).writing id).mpr after
  have away : c.writer? ≠ some (.call id) := by
    intro held
    have writing := (o.writing id).mp held
    rw [before] at writing
    cases writing
  rcases hands_step o event with ⟨same, _, _⟩ | ⟨writer, frame, _, holds', frames, _⟩ |
    ⟨writer, bytes, left, held', holds', _, _, _⟩ | ⟨_, _, _, _, _, free, _⟩ | ⟨_, _, _, free, _, _⟩
  · rw [writer?, same] at holds
    exact absurd holds away
  · obtain rfl : writer = .call id := by simpa [writer?, holds'] using holds
    rw [frameOf?, asks, Option.map_some, Option.some.injEq] at frames
    simp only [leftToWrite, holds', ← frames]
  · obtain rfl : writer = .call id := by simpa [writer?, holds'] using holds
    exact absurd (by simp [writer?, held']) away
  · simp [writer?, free] at holds
  · simp [writer?, free] at holds

/-- No own event gives a request more to do, and one that moves it gives it less to do. -/
theorem weightAt_step (o : Orderly c) (own : event.IsOwn) (id : Nat) :
    (c.step event).weightAt id ≤ c.weightAt id ∧
      ((c.step event).stageOf? id ≠ c.stageOf? id → (c.step event).weightAt id < c.weightAt id) := by
  -- A request that moves goes down in weight, and one that stays can only have less to write.
  cases before : c.stageOf? id with
  | none =>
    -- A request that is not there stays away, and weighs nothing.
    have beyond : c.calls.length ≤ id := by simpa [stageOf?] using before
    have after : (c.step event).stageOf? id = none := by
      have still : (c.step event).calls.length ≤ id := by rw [length_step own]; exact beyond
      simp [stageOf?, still]
    refine ⟨?_, fun moved => absurd (after.trans before.symm) (by rw [before]; exact moved)⟩
    rw [weightAt, after]
    exact Nat.zero_le _
  | some stage =>
    obtain ⟨request, asks⟩ := requestOf?_of_stageOf? before
    have asks' : (c.step event).requestOf? id = some request := requestOf?_step asks
    obtain ⟨stage', after, goes⟩ := goes_step o event before
    rw [weightAt_eq before asks, weightAt_eq after asks', after]
    have less (lower : Stage.weight (requestFrame id request).length (c.step event).leftToWrite stage' <
        Stage.weight (requestFrame id request).length c.leftToWrite stage) := And.intro
      (Nat.le_of_lt lower) fun _ : some stage' ≠ some stage => lower
    cases goes with
    | stays =>
      refine ⟨?_, fun moved => absurd rfl moved⟩
      cases stage with
      | writing =>
        -- Nothing is added to what is left to write in one's own turn.
        have left := leftToWrite_step o before after
        simp only [Stage.weight]
        omega
      | _ => exact Nat.le_refl _
    | registered => exact less (Nat.lt_succ_self _)
    | refused => exact less (Nat.succ_pos _)
    | queued => exact less (Nat.lt_succ_self _)
    | granted =>
      -- A frame that is granted is whole, and writing it is still less than waiting for the turn.
      have whole := leftToWrite_granted o before after asks'
      refine less ?_
      simp only [Stage.weight]
      omega
    | written =>
      refine less ?_
      simp only [Stage.weight]
      omega
    | answered => exact less (Nat.succ_pos _)
    -- Nobody fails or gives up of their own accord.
    | failed => exact own.elim
    | abandoned => exact own.elim

/-- No own event makes the effort greater. -/
theorem effort_step (o : Orderly c) (own : event.IsOwn) : (c.step event).effort ≤ c.effort := by
  -- No weight grows, and no request is added.
  rw [effort, effort, length_step own]
  exact Finset.sum_le_sum fun id _ => (weightAt_step o own id).1

/-- An own event that gives one request less to do makes the effort smaller. -/
theorem effort_lt (o : Orderly c) (own : event.IsOwn) {id : Nat} {stage : Stage}
    (found : c.stageOf? id = some stage) (less : (c.step event).weightAt id < c.weightAt id) :
    (c.step event).effort < c.effort := by
  -- No weight grows, and the one at `id` gets less.
  rw [effort, effort, length_step own]
  refine Finset.sum_lt_sum (fun id _ => (weightAt_step o own id).1) ⟨id, ?_, less⟩
  exact Finset.mem_range.mpr (lt_of_stageOf? found)

/-- A request that an own event moves has less to do. -/
theorem effort_lt_of_moved (o : Orderly c) (own : event.IsOwn) {id : Nat} {old new : Stage}
    (before : c.stageOf? id = some old) (after : (c.step event).stageOf? id = some new)
    (moved : old ≠ new) : (c.step event).effort < c.effort := by
  -- A request that moves on has less before it.
  refine effort_lt o own before ((weightAt_step o own id).2 ?_)
  rw [before, after]
  exact fun same => moved (Option.some.inj same).symm

/-- Reading a payload writes nothing. -/
theorem outbound_takePayload (c : Connection) (payload : List UInt8) :
    (c.takePayload payload).outbound = c.outbound := by
  -- Taking a payload writes nothing.
  rcases c.takePayload_cases payload with same | ⟨test, reply, same⟩ | ⟨id, method, same⟩
  · rw [same]
  · rw [same, outbound_bring]
  · rw [same]

/-- A write that changes anything leaves its request less to do. -/
theorem effort_write (o : Orderly c) (p : Open c) (s : Spoken c) {count : Nat}
    (moves : c.step (.write count) ≠ c) : (c.step (.write count)).effort < c.effort := by
  -- The holder writes all that is left, or a part of it, or nothing.
  have own : (Event.write count).IsOwn := trivial
  cases held : c.holder with
  | none => exact absurd (by simp only [step, write, held]) moves
  | some holding =>
    obtain ⟨writer, bytes⟩ := holding
    obtain ⟨id, rfl⟩ := p.call_holds o held
    have writing : c.stageOf? id = some .writing := o.stageOf?_holder held
    have unstuck : (c.peerGone || c.shut) = false := by rw [p.taking, p.unshut]; rfl
    generalize fits : min count (c.capacity - c.outbound.length) = n
    cases written : (bytes.drop n).isEmpty with
    | true =>
      -- The frame is written, and its request moves on.
      have after : (c.step (.write count)).stageOf? id = some .waiting := by
        simp only [step, write, held, unstuck, fits, written, Bool.false_eq_true, if_false, if_true]
        show (c.moveTo id .waiting).stageOf? id = _
        simp [writing]
      exact effort_lt_of_moved o own writing after (by decide)
    | false =>
      have step : c.step (.write count) =
          { c with outbound := c.outbound ++ bytes.take n, holder := some (.call id, bytes.drop n) } := by
        simp only [step, write, held, unstuck, fits, written, Bool.false_eq_true, if_false]
      -- Without room nothing is written, and nothing changes.
      cases n with
      | zero =>
        refine absurd ?_ moves
        rw [step, List.take_zero, List.append_nil, List.drop_zero, ← held]
      | succ n =>
        obtain ⟨request, asks⟩ := requestOf?_of_stageOf? writing
        have after : (c.step (.write count)).stageOf? id = some .writing := by
          rw [step]
          exact writing
        -- Some bytes are left, and at least one of them is taken.
        have some : bytes ≠ [] := s.unfinished _ _ held
        have long : 0 < bytes.length := List.length_pos_of_ne_nil some
        refine effort_lt o own writing ?_
        rw [weightAt_eq writing asks, weightAt_eq after (requestOf?_step asks), step]
        simp only [Stage.weight, leftToWrite, held, List.length_drop]
        omega

/-- Every own event that changes anything leaves less to do, or fewer bytes under way. -/
theorem rank_step (o : Orderly c) (p : Open c) (s : Spoken c) (reads : Answers.ReadsQuiet c)
    (own : event.IsOwn) (moves : c.step event ≠ c) :
    (c.step event).effort < c.effort ∨
      ((c.step event).effort ≤ c.effort ∧ (c.step event).pending < c.pending) := by
  -- A request that is moved on has less to do; reading and delivering take bytes that are under way.
  cases event with
  | register id =>
    -- An event whose request is elsewhere changes nothing.
    by_cases fresh : c.stageOf? id = some .fresh
    · exact .inl (effort_lt_of_moved o own fresh (stageOf?_of_enters ⟨rfl, fresh, p.isOpen⟩)
        (by decide))
    · exact absurd (by simp only [step, register, fresh, if_false]) moves
  | queue id =>
    by_cases registered : c.stageOf? id = some .registered
    · have after : (c.step (.queue id)).stageOf? id = some .queued := by
        simp only [step, queue, registered, if_true]
        show (c.moveTo id .queued).stageOf? id = _
        simp [registered]
      exact .inl (effort_lt_of_moved o own registered after (by decide))
    · exact absurd (by simp only [step, queue, registered, if_false]) moves
  | grant =>
    cases held : c.holder with
    | some holding => exact absurd (by simp only [step, grant, held]) moves
    | none =>
      -- The first in line gets the right to write.
      cases first : c.line with
      | nil => exact absurd (by simp only [step, grant, held, first]) moves
      | cons writer line =>
        obtain ⟨id, rfl⟩ := p.calls_in_line o (show writer ∈ c.line by rw [first]; simp)
        have queued : c.stageOf? id = some .queued := o.stageOf?_first first
        obtain ⟨call, here, _⟩ := Option.map_eq_some_iff.mp queued
        have after : (c.step .grant).stageOf? id = some .writing := by
          simp only [step, grant, held, first, here]
          show (c.moveTo id .writing).stageOf? id = _
          simp [queued]
        exact .inl (effort_lt_of_moved o own queued after (by decide))
  | write count => exact .inl (effort_write o p s moves)
  | finish id =>
    have finish : c.step (.finish id) = c.finish id := rfl
    rw [finish, Alike.finish_eq] at moves
    split at moves
    · rename_i request reply waits asks has
      have after : (c.step (.finish id)).stageOf? id = some (.finished (outcomeOf request reply)) := by
        rw [finish, Alike.finish_eq, waits, asks, has]
        simp [waits]
      exact .inl (effort_lt_of_moved o own waits after (by simp))
    · exact absurd rfl moves
  | read =>
    right
    refine ⟨effort_step o own, ?_⟩
    rcases reads with unfinished | ⟨payload, left, frame, quiet⟩
    · exact absurd (p.step_read_unfinished unfinished).1 moves
    · -- A frame that is read is gone from what has come in.
      have opens : Open { c with inbound := left } := p.congr rfl rfl rfl rfl rfl rfl
      have shorter : left.length < c.inbound.length := by
        rw [p.arriving] at frame
        exact readHeaders_shorter frame
      have outbound : (({ c with inbound := left } : Connection).takePayload payload).outbound =
          c.outbound := outbound_takePayload _ payload
      rw [(p.step_read_frame frame).1, pending, pending, outbound, (opens.takePayload quiet).2]
      exact Nat.add_lt_add_left shorter _
  | deliver count =>
    right
    refine ⟨effort_step o own, ?_⟩
    -- Bytes that are delivered are gone from what is under way.
    have shorter : (c.outbound.drop count).length < c.outbound.length := by
      refine Nat.lt_of_not_le fun whole => moves ?_
      have all : c.outbound.drop count = c.outbound :=
        (List.drop_sublist count c.outbound).eq_of_length_le whole
      have none : c.outbound.take count = [] := by
        have split := List.take_append_drop count c.outbound
        rw [all] at split
        simpa using split
      simp only [step, all, none, List.append_nil]
    exact Nat.add_lt_add_right shorter _
  | issue | arrive | failWrite | abandon | endInbound | failRead | hangUp | close | failShut | giveUp =>
    exact own.elim

end Rank

section Comes

variable {capacity : Nat} {events : List Event} {payloads : List (List UInt8)}

/-- Own events go on with a smooth run. -/
theorem Receiving.goes (r : Receiving capacity events payloads) {more : List Event}
    (own : ∀ event ∈ more, event.IsOwn) : Receiving capacity (events ++ more) payloads where
  smooth event member := by
    -- Events of the connection's own are smooth and bring no bytes.
    rcases List.mem_append.mp member with before | after
    · exact r.smooth event before
    · exact (own event after).smooth.1
  sends := by
    have nothing : arrived more = [] := by
      rw [arrived, List.flatMap_eq_nil_iff]
      exact fun event member => (own event member).smooth.2.1
    rw [arrived_append, nothing, List.append_nil]
    exact r.sends
  accepted := r.accepted
  quiet := r.quiet

/-- Whatever a connection does next by itself, it comes to rest. -/
theorem Receiving.comes {goal : Connection → Prop} {events : List Event}
    (r : Receiving capacity events payloads)
    (there : ∀ more, (∀ event ∈ more, Event.IsOwn event) →
      Resting ((start capacity).run (events ++ more)) → goal ((start capacity).run (events ++ more))) :
    Comes goal ((start capacity).run events) := by
  -- By induction on what is left to do, and then on the bytes under way.
  by_cases resting : Resting ((start capacity).run events)
  · have goal := there [] (fun event member => by cases member)
    rw [List.append_nil] at goal
    exact .rests resting (goal resting)
  · refine .goes resting fun event own moves => ?_
    have one : ∀ other ∈ [event], Event.IsOwn other := by
      intro other member
      rw [List.mem_singleton.mp member]
      exact own
    have after : (start capacity).run (events ++ [event]) = ((start capacity).run events).step event :=
      run_concat ..
    -- Every event that changes something brings the rest nearer.
    have rank := rank_step ((Orderly.start capacity).run events) r.reads.choose_spec.choose_spec.2.stands
      ((Spoken.start capacity).run (.start capacity) events) r.readsQuiet own moves
    rw [← after]
    refine Receiving.comes (r.goes one) fun more owns => ?_
    rw [List.append_assoc]
    refine there ([event] ++ more) fun other member => ?_
    rcases List.mem_append.mp member with first | later
    · exact one other first
    · exact owns other later
termination_by (((start capacity).run events).effort, ((start capacity).run events).pending)
decreasing_by
  rw [← after] at rank
  rcases rank with less | ⟨le, less⟩
  · exact Prod.Lex.left _ _ less
  · exact Prod.Lex.right' _ le less

end Comes

end Connection

end TemplateFacts.Wire
