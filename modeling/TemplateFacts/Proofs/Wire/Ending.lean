import TemplateFacts.Proofs.Wire.Correlation
import TemplateFacts.Proofs.Wire.Spoken

/-!
How requests end: by a reply that some event has brought them, or because their own frame could not
be written. Once a request has its reply, nothing that comes later changes what it ends with.
-/

namespace TemplateFacts.Wire

namespace Connection

variable {c : Connection} {id : Nat}

/-- A reader that has ended stays so. -/
theorem ended_step (o : Orderly c) (ended : c.reader = .ended) (event : Event) :
    (c.step event).reader = .ended := by
  -- An ended reader takes nothing, and it holds no turn whose end would change it.
  have idle : c.writer? ≠ some .reader := by
    intro holds
    obtain ⟨frame, refusing⟩ := o.refusing.mp (.inr holds)
    rw [ended] at refusing
    cases refusing
  have does := does_step c event
  generalize c.step event = d at does
  cases does with
  | took payload rest reading =>
    rw [ended] at reading
    cases reading
  | wroteAll count writer bytes held =>
    cases writer with
    | reader => exact absurd (by simp [writer?, held]) idle
    | _ => exact ended
  | failedReader fault left held => exact absurd (by simp [writer?, held]) idle
  | readToEnd | readFault | failedRead | closed => rfl
  | _ => exact ended

/-- Once the table is closed, the reader has ended. -/
theorem ended_of_closed (capacity : Nat) (events : List Event)
    (closed : ((start capacity).run events).table.closed = true) :
    ((start capacity).run events).reader = .ended := by
  -- By induction on the events, of which only those that end the reader close the table.
  induction events using List.reverseRecOn with
  | nil => cases closed
  | append_singleton events event ih =>
    rw [run_concat] at closed ⊢
    rcases closes_or_staysOpen ((start capacity).run events) event with ⟨_, ended⟩ | ⟨same, _⟩
    · exact ended
    · exact ended_step ((Orderly.start capacity).run events) (ih (same ▸ closed)) event

/-- While the reader has not ended, the table is open. -/
theorem open_of_reading {capacity : Nat} {events : List Event}
    (reading : ((start capacity).run events).reader = .reading) :
    ((start capacity).run events).table.closed = false := by
  -- The table is closed by the reader's end and by nothing before it.
  cases closed : ((start capacity).run events).table.closed with
  | false => rfl
  | true =>
    rw [ended_of_closed capacity events closed] at reading
    cases reading

/-- Whoever waits has entered the table, and has not finished. -/
theorem entered_of_waits (a : Accounted c) (waits : id ∈ c.table.waiters) :
    ∃ stage, c.stageOf? id = some stage ∧ stage ≠ .fresh ∧ ∀ outcome, stage ≠ .finished outcome := by
  -- A waiter is alive, which neither a fresh request nor a finished one is.
  obtain ⟨stage, found, alive⟩ := a.live id waits
  refine ⟨stage, found, ?_, ?_⟩
  · rintro rfl
    rcases alive with underWay | abandoned
    · exact underWay.elim
    · cases abandoned
  · rintro outcome rfl
    rcases alive with underWay | abandoned
    · exact underWay.elim
    · cases abandoned

/-- Some event of the run has brought the reply to the request while it waited. -/
def Told (c : Connection) (events : List Event) (id : Nat) (reply : Reply) : Prop :=
  ∃ front event later, events = front ++ event :: later ∧ id ∈ (c.run front).table.waiters ∧
    ((c.run front).brought event).1 id = true ∧ ((c.run front).brought event).2 = reply

/-- What was told is told when the run goes on. -/
theorem Told.append {events : List Event} {reply : Reply} (told : c.Told events id reply)
    (more : List Event) : c.Told (events ++ more) id reply := by
  -- The event that told it comes as early as before.
  obtain ⟨front, event, later, rfl, said⟩ := told
  exact ⟨front, event, later ++ more, by simp, said⟩

/-- A reply was there at the beginning, or it was told. -/
theorem told_of_slot {events : List Event} {reply : Reply}
    (has : (c.run events).slotOf? id = some reply) :
    c.slotOf? id = some reply ∨ c.Told events id reply := by
  -- By induction on the events, from the last one back.
  induction events using List.reverseRecOn with
  | nil => exact .inl has
  | append_singleton events event ih =>
    rw [run_concat, slotOf?_step, slotOf?_bring] at has
    split at has
    · rename_i picked
      exact .inr ⟨events, event, [], rfl, picked.1, picked.2.1, Option.some.inj has⟩
    · exact (ih has).imp_right fun told => told.append [event]

/-- How a run makes the request end: it takes a reply that it has, or its own writing fails. -/
inductive EndsBy (c : Connection) (events : List Event) (id : Nat) : Except Error Json → Prop where
  | took (front later : List Event) (split : events = front ++ .finish id :: later)
      (waits : (c.run front).stageOf? id = some .waiting) (request : Request) (reply : Reply)
      (asks : (c.run front).requestOf? id = some request)
      (has : (c.run front).slotOf? id = some reply) : EndsBy c events id (outcomeOf request reply)
  | unwritten (front later : List Event) (fault : IoFault)
      (split : events = front ++ .failWrite fault :: later)
      (holds : (c.run front).writer? = some (.call id)) : EndsBy c events id (.error (.io fault))

/-- What has ended stays ended when the run goes on. -/
theorem EndsBy.append {events : List Event} {outcome : Except Error Json}
    (ends : c.EndsBy events id outcome) (more : List Event) : c.EndsBy (events ++ more) id outcome := by
  -- The events that ended the request are among the first ones.
  cases ends with
  | took front later split waits request reply asks has =>
    exact .took front (later ++ more) (by simp [split]) waits request reply asks has
  | unwritten front later fault split holds =>
    exact .unwritten front (later ++ more) fault (by simp [split]) holds

/-- A request that is neither fresh nor finished can only end by a reply, or by its own writing. -/
theorem endsBy_of_finished (o : Orderly c) {stage : Stage} (found : c.stageOf? id = some stage)
    (entered : stage ≠ .fresh) (unfinished : ∀ outcome, stage ≠ .finished outcome)
    {events : List Event} {outcome : Except Error Json}
    (finished : (c.run events).stageOf? id = some (.finished outcome)) :
    c.EndsBy events id outcome := by
  -- By induction on the events: the last one ends the request, or it had ended before.
  induction events using List.reverseRecOn with
  | nil => exact absurd (Option.some.inj (found.symm.trans finished)) (unfinished outcome)
  | append_singleton events event ih =>
    obtain ⟨before, here, notFresh⟩ := not_fresh_run o found entered events
    obtain ⟨after, now, goes⟩ := goes_step (o.run events) event here
    rw [run_concat, now, Option.some.injEq] at finished
    subst finished
    cases goes with
    | stays => exact (ih here).append [event]
    | refused => exact absurd rfl notFresh
    | failed fault _ holds => exact .unwritten events [] fault rfl holds
    | answered _ request reply asks has => exact .took events [] rfl here request reply asks has

/--
The request has the reply for good: it waits no more, it can take the reply as soon as its frame is
written, and it ends with nothing else, unless its own writing fails first.
-/
structure Settled (c : Connection) (id : Nat) (reply : Reply) : Prop where
  away : ∀ more, id ∉ (c.run more).table.waiters
  has : ∀ more, (c.run more).slotOf? id = some reply
  takes : ∀ more request, c.requestOf? id = some request →
    (c.run more).stageOf? id = some .waiting →
      ((c.run more).step (.finish id)).stageOf? id = some (.finished (outcomeOf request reply))
  ends : ∀ more request outcome, c.requestOf? id = some request →
    (c.run more).stageOf? id = some (.finished outcome) →
      outcome = outcomeOf request reply ∨
        ∃ front fault later, more = front ++ .failWrite fault :: later ∧
          (c.run front).writer? = some (.call id) ∧ outcome = .error (.io fault)

/-- A request that has entered the table before and has a reply has it for good. -/
theorem settled_of_slot (o : Orderly c) {reply : Reply} {stage : Stage}
    (found : c.stageOf? id = some stage) (entered : stage ≠ .fresh)
    (unfinished : ∀ outcome, stage ≠ .finished outcome) (away : id ∉ c.table.waiters)
    (has : c.slotOf? id = some reply) : c.Settled id reply := by
  have stays (more : List Event) :
      id ∉ (c.run more).table.waiters ∧ (c.run more).slotOf? id = some reply := by
    -- By induction on the events: only a fresh request enters, and nothing comes to one that is away.
    induction more using List.reverseRecOn with
    | nil => exact ⟨away, has⟩
    | append_singleton more event ih =>
      obtain ⟨before, here, notFresh⟩ := not_fresh_run o found entered more
      rw [run_concat, Accounted.slotOf?_step_of_not_waits ih.1, mem_waiters_step]
      refine ⟨?_, ih.2⟩
      rintro (⟨waits, _⟩ | ⟨_, fresh, _⟩)
      · exact ih.1 waits
      · exact notFresh (Option.some.inj (here.symm.trans fresh))
  refine ⟨fun more => (stays more).1, fun more => (stays more).2, fun more request asks waits => ?_,
    fun more request outcome asks finished => ?_⟩
  · have asks' := requestOf?_run asks more
    have has' := (stays more).2
    obtain ⟨call, here, waiting⟩ := Option.map_eq_some_iff.mp waits
    have slot : call.slot = some reply := by simpa [slotOf?, here] using has'
    have same : call.request = request := by simpa [requestOf?, here] using asks'
    obtain ⟨_, _, _⟩ := call
    subst waiting slot same
    simp only [step, finish, here, stageOf?_moveTo, if_true, waits, Option.map_some]
  · cases endsBy_of_finished o found entered unfinished finished with
    | took front later split waits request' reply' asks' has' =>
      obtain rfl : request' = request := Option.some.inj (asks'.symm.trans (requestOf?_run asks front))
      obtain rfl : reply' = reply := Option.some.inj (has'.symm.trans (stays front).2)
      exact .inl rfl
    | unwritten front later fault split holds => exact .inr ⟨front, fault, later, split, holds, rfl⟩

/-- Whoever waits and is picked has for good what the event brings. -/
theorem settled_step (a : Accounted c) (o : Orderly c) {event : Event} (waits : id ∈ c.table.waiters)
    (picked : (c.brought event).1 id = true)
    (stays : ∀ stage, c.stageOf? id = some stage → (c.step event).stageOf? id = some stage) :
    (c.step event).Settled id (c.brought event).2 := by
  -- The slot was filled and the waiter taken off the list, and neither is undone by the step.
  obtain ⟨stage, found, entered, unfinished⟩ := entered_of_waits a waits
  refine settled_of_slot (o.step event) (stays stage found) entered unfinished ?_ ?_
  · rw [mem_waiters_step]
    rintro (⟨_, unpicked⟩ | ⟨_, fresh, _⟩)
    · rw [picked] at unpicked
      cases unpicked
    · exact a.not_waits_of_fresh fresh waits
  · rw [slotOf?_step, slotOf?_bring, if_pos ⟨waits, picked, a.known waits⟩]

end Connection

end TemplateFacts.Wire
