import TemplateFacts.Proofs.Wire.Life
import TemplateFacts.Proofs.Wire.Sent

/-!
No waiter is lost: whoever is under way has its reply or waits in the table, and a closed table is
empty for good, so that nobody waits for a reply that nothing can bring any more.
-/

namespace TemplateFacts.Wire

/-- The request is registered, not finished, and not given up. -/
def Stage.UnderWay : Stage → Prop
  | .registered | .queued | .writing | .waiting => True
  | .fresh | .finished _ | .abandoned => False

namespace Connection

variable {c : Connection}

namespace Goes

variable {event : Event} {id : Nat} {before after : Stage}

/-- A request that is under way was so before, or it has just entered the open table. -/
theorem underWay (goes : c.Goes event id before after) (now : after.UnderWay) :
    before.UnderWay ∨ (event = .register id ∧ before = .fresh ∧ c.table.closed = false) := by
  -- Only registering gets a request under way, and it does so while the table is open.
  cases goes with
  | stays => exact .inl now
  | registered _ isOpen => exact .inr ⟨rfl, rfl, isOpen⟩
  | queued => exact .inl trivial
  | granted => exact .inl trivial
  | written => exact .inl trivial
  | refused => exact now.elim
  | failed => exact now.elim
  | answered => exact now.elim
  | abandoned => exact now.elim

end Goes

/-- Neither the table is closed between the two, nor does the reader end, nor does a close begin. -/
def StaysOpen (c d : Connection) : Prop :=
  d.table.closed = c.table.closed ∧ (d.reader = .ended → c.reader = .ended) ∧
    (d.closings ≠ [] → c.closings ≠ [])

theorem StaysOpen.refl (c : Connection) : StaysOpen c c := ⟨rfl, id, id⟩

theorem staysOpen_takePayload (c : Connection) (payload : List UInt8) :
    StaysOpen c (c.takePayload payload) := by
  -- A reply takes waiters off the list and closes nothing.
  rcases c.takePayload_cases payload with same | ⟨test, reply, same⟩ | ⟨_, _, same⟩
  · rw [same]
    exact .refl c
  · rw [same]
    exact .refl c
  · rw [same]
    exact ⟨rfl, by simp, id⟩

/-- An event closes the table and ends the reader, or leaves alone all that has to do with the end. -/
theorem closes_or_staysOpen (c : Connection) (event : Event) :
    ((c.step event).table = ⟨true, []⟩ ∧ (c.step event).reader = .ended) ∨
      StaysOpen c (c.step event) := by
  -- Only a close and the end of reading close the table, and both end the reader.
  have does := does_step c event
  generalize c.step event = d at does
  cases does with
  | readToEnd | readFault | failedRead | closed => exact .inl ⟨rfl, rfl⟩
  | grantedClosing | failedShut | gaveUp => exact .inr ⟨rfl, id, by simp [List.set_eq_nil_iff]⟩
  | wroteAll count writer =>
    cases writer with
    | reader => exact .inr ⟨rfl, by simp [written, freeWriter], id⟩
    | _ => exact .inr (.refl c)
  | failedReader => exact .inr ⟨rfl, by simp [freeWriter], id⟩
  | took payload rest => exact .inr (staysOpen_takePayload { c with inbound := rest } payload)
  | _ => exact .inr (.refl c)

/-- The table knows everybody who waits, and a closed one is empty. -/
structure Accounted (c : Connection) : Prop where
  live : ∀ id ∈ c.table.waiters,
    ∃ stage, c.stageOf? id = some stage ∧ (stage.UnderWay ∨ stage = .abandoned)
  unanswered : ∀ id ∈ c.table.waiters, c.slotOf? id = none
  fresh_unanswered : ∀ id, c.stageOf? id = some .fresh → c.slotOf? id = none
  closed_empty : c.table.closed = true → c.table.waiters = []
  ended_closed : c.reader = .ended ∨ c.closings ≠ [] → c.table.closed = true
  underWay : ∀ id stage, c.stageOf? id = some stage → stage.UnderWay →
    c.slotOf? id ≠ none ∨ id ∈ c.table.waiters

namespace Accounted

/-- Nobody waits on a new connection. -/
theorem start (capacity : Nat) : Accounted (start capacity) := by
  -- At the start nobody waits.
  constructor <;> simp [Connection.start, stageOf?]

/-- Whoever waits is one of the requests ever made. -/
theorem known (a : Accounted c) {id : Nat} (waits : id ∈ c.table.waiters) :
    id < c.calls.length := by
  -- Whoever waits has a stage.
  obtain ⟨stage, found, _⟩ := a.live id waits
  exact lt_of_stageOf? found

/-- A fresh request does not wait. -/
theorem not_waits_of_fresh (a : Accounted c) {id : Nat} (fresh : c.stageOf? id = some .fresh) :
    id ∉ c.table.waiters := by
  -- A waiter is under way or has given up, and a fresh request is neither.
  intro waits
  obtain ⟨stage, found, underWay | abandoned⟩ := a.live id waits
  · rw [fresh, Option.some.injEq] at found
    rw [← found] at underWay
    exact underWay.elim
  · rw [fresh, abandoned] at found
    cases found

/-- Nothing comes for a request that does not wait. -/
theorem slotOf?_step_of_not_waits {event : Event} {id : Nat} (away : id ∉ c.table.waiters) :
    (c.step event).slotOf? id = c.slotOf? id := by
  -- Replies are brought to those who wait.
  rw [slotOf?_step, slotOf?_bring, if_neg fun picked => away picked.1]

/-- Every event keeps account of those who wait. -/
theorem step (a : Accounted c) (o : Orderly c) (event : Event) : Accounted (c.step event) := by
  constructor
  · intro id waits
    rcases (mem_waiters_step c event id).mp waits with ⟨waited, unpicked⟩ | enters
    · obtain ⟨before, here, alive⟩ := a.live id waited
      obtain ⟨after, found, goes⟩ := goes_step o event here
      refine ⟨after, found, ?_⟩
      cases goes with
      | stays => exact alive
      | registered => exact absurd waited (a.not_waits_of_fresh here)
      | refused => exact absurd waited (a.not_waits_of_fresh here)
      | queued => exact .inl trivial
      | granted => exact .inl trivial
      | written => exact .inl trivial
      | failed fault _ holds =>
        -- Whoever fails to write is taken out of the table.
        simp [brought, holds] at unpicked
      | answered _ _ reply _ has =>
        rw [a.unanswered id waited] at has
        cases has
      | abandoned => exact .inr rfl
    · exact ⟨.registered, stageOf?_of_enters enters, .inl trivial⟩
  · intro id waits
    rcases (mem_waiters_step c event id).mp waits with ⟨waited, unpicked⟩ | ⟨_, fresh, _⟩
    · rw [slotOf?_step, slotOf?_bring, if_neg fun picked => by simp [unpicked] at picked]
      exact a.unanswered id waited
    · rw [slotOf?_step_of_not_waits (a.not_waits_of_fresh fresh)]
      exact a.fresh_unanswered id fresh
  · intro id fresh
    rcases came_step o fresh with ⟨before, _⟩ | ⟨old, before, goes⟩
    · have away : id ∉ c.table.waiters := by
        intro waits
        obtain ⟨stage, found, _⟩ := a.live id waits
        rw [before] at found
        cases found
      rw [slotOf?_step_of_not_waits away]
      have beyond : c.calls[id]? = none := by simpa [stageOf?] using before
      simp [slotOf?, beyond]
    · cases goes with
      | stays =>
        rw [slotOf?_step_of_not_waits (a.not_waits_of_fresh before)]
        exact a.fresh_unanswered id before
  · intro closed
    rcases closes_or_staysOpen c event with ⟨empty, _⟩ | ⟨same, _⟩
    · rw [empty]
    · -- Nobody waited before, and a closed table lets nobody in.
      have closedBefore : c.table.closed = true := same ▸ closed
      rw [List.eq_nil_iff_forall_not_mem]
      intro id waits
      rcases (mem_waiters_step c event id).mp waits with ⟨waited, _⟩ | ⟨_, _, isOpen⟩
      · rw [a.closed_empty closedBefore] at waited
        exact absurd waited List.not_mem_nil
      · rw [closedBefore] at isOpen
        cases isOpen
  · intro atEnd
    rcases closes_or_staysOpen c event with ⟨closes, _⟩ | ⟨same, ended, closings⟩
    · rw [closes]
    · rw [same]
      exact a.ended_closed (atEnd.imp ended closings)
  · intro id stage found underWay
    -- It was under way before, or it was fresh and is entered now.
    rw [mem_waiters_step, slotOf?_step, slotOf?_bring]
    rcases came_step o found with ⟨_, rfl⟩ | ⟨old, before, goes⟩
    · exact underWay.elim
    · rcases goes.underWay underWay with wasUnderWay | ⟨rfl, rfl, isOpen⟩
      · rcases a.underWay id old before wasUnderWay with has | waits
        · exact .inl (by split <;> simp_all)
        · cases picked : (c.brought event).1 id with
          | true => exact .inl (by simp [waits, a.known waits])
          | false => exact .inr (.inl ⟨waits, rfl⟩)
      · exact .inr (.inr ⟨rfl, before, isOpen⟩)

/-- Every run keeps account of those who wait. -/
theorem run (a : Accounted c) (o : Orderly c) (events : List Event) : Accounted (c.run events) := by
  -- By induction on the events, each of which keeps the order and the account.
  induction events generalizing c with
  | nil => exact a
  | cons event events ih => exact ih (a.step o event) (o.step event)

end Accounted

/-- A closed table stays closed in every run. -/
theorem closed_run (closed : c.table.closed = true) (events : List Event) :
    (c.run events).table.closed = true := by
  -- No event opens the table again.
  induction events generalizing c with
  | nil => exact closed
  | cons event events ih =>
    refine ih ?_
    rcases closes_or_staysOpen c event with ⟨closes, _⟩ | ⟨same, _⟩
    · rw [closes]
    · rw [same, closed]

/-- A finished request writes nothing. -/
theorem silent_of_finished (o : Orderly c) {id : Nat} {outcome : Except Error Json}
    (found : c.stageOf? id = some (.finished outcome)) {event : Event} {writer : Writer}
    {bytes : List UInt8} (writes : c.wrote? event = some (writer, bytes)) : writer ≠ .call id := by
  -- A writer's request is writing, so it has not finished.
  rintro rfl
  have writing : c.stageOf? id = some .writing := (o.writing id).mp (writer?_of_wrote? writes)
  rw [found] at writing
  cases writing

/--
No waiter is lost. In every state that a run can reach, a closed table is empty and stays so;
whoever is under way has its reply or stands in the table; behind a closed table everybody whose
frame is written can finish at once; and a request that comes after the end is refused, changes
nothing of the table, and never writes a byte.
-/
theorem no_waiter_lost (capacity : Nat) (events : List Event) :
    let c := (start capacity).run events
    (c.table.closed = true →
      c.table.waiters = [] ∧ ∀ more, (c.run more).table = ⟨true, []⟩) ∧
    (∀ id stage, c.stageOf? id = some stage → stage.UnderWay →
      c.slotOf? id ≠ none ∨ id ∈ c.table.waiters) ∧
    (c.table.closed = true → ∀ id, c.stageOf? id = some .waiting →
      ∃ request reply, c.requestOf? id = some request ∧ c.slotOf? id = some reply ∧
        (c.step (.finish id)).stageOf? id = some (.finished (outcomeOf request reply))) ∧
    (c.reader = .ended ∨ c.closings ≠ [] → ∀ id, c.stageOf? id = some .fresh →
      let refused := c.step (.register id)
      refused.table = c.table ∧ refused.sent = c.sent ∧
      ∀ more, (refused.run more).stageOf? id =
          some (.finished (.error (.connectionClosed ""))) ∧
        ∀ event writer bytes, (refused.run more).wrote? event = some (writer, bytes) →
          writer ≠ .call id) := by
  -- The account that every run keeps says all of it.
  intro c
  have orderly : Orderly c := (Orderly.start capacity).run events
  have accounted : Accounted c := (Accounted.start capacity).run (.start capacity) events
  refine ⟨fun closed => ⟨accounted.closed_empty closed, fun more => ?_⟩, accounted.underWay,
    fun closed id waiting => ?_, fun atEnd id fresh => ?_⟩
  · have stays : (c.run more).table.closed = true := closed_run closed more
    have empty : (c.run more).table.waiters = [] :=
      (accounted.run orderly more).closed_empty stays
    cases table : (c.run more).table with
    | mk isClosed waiters => simp_all
  · -- Nobody is left in the table, so that the reply must be there.
    have absent : id ∉ c.table.waiters := by simp [accounted.closed_empty closed]
    have has : c.slotOf? id ≠ none :=
      (accounted.underWay id .waiting waiting trivial).resolve_right absent
    cases found : c.calls[id]? with
    | none => simp [slotOf?, found] at has
    | some call =>
      obtain ⟨request, stage, slot⟩ := call
      obtain rfl : stage = .waiting := by simpa [stageOf?, found] using waiting
      cases slot with
      | none => simp [slotOf?, found] at has
      | some reply =>
        refine ⟨request, reply, by simp [requestOf?, found], by simp [slotOf?, found], ?_⟩
        simp [step, finish, found, waiting]
  · have closed : c.table.closed = true := accounted.ended_closed atEnd
    have refuses : c.step (.register id) =
        c.moveTo id (.finished (.error (.connectionClosed ""))) := by
      simp only [step, register, fresh, if_true, closed]
    intro refused
    have orderlyAfter : Orderly refused := orderly.step (.register id)
    have finished : refused.stageOf? id = some (.finished (.error (.connectionClosed ""))) := by
      simp [refused, refuses, fresh]
    refine ⟨by simp [refused, refuses], by simp [refused, refuses], fun more => ?_⟩
    have stays := finished_run orderlyAfter finished more
    exact ⟨stays, fun event writer bytes => silent_of_finished (orderlyAfter.run more) stays⟩

end Connection

end TemplateFacts.Wire
