import Mathlib.Algebra.Group.Nat.Defs
import Mathlib.Data.List.Induction
import TemplateFacts.Proofs.Wire.Alike
import TemplateFacts.Proofs.Wire.Waiters

/-!
Answers find their requests: a request that is answered is answered by the first response with its
number that the reader took after the request had entered the table.
-/

namespace TemplateFacts.Wire

/-- The reply is what a response says, and no sign of trouble. -/
def Reply.IsAnswer : Reply → Prop
  | .result _ | .error _ => True
  | .fault _ | .released => False

/-- The outcome is a result, a result of another shape than asked for, or a remote error. -/
def IsAnswered : Except Error Json → Prop
  | .ok _ | .error (.serialization _) | .error (.remote ..) => True
  | _ => False

namespace Connection

variable {c : Connection}

/-- Only an answer makes an answered request. -/
theorem isAnswer_of_isAnswered {request : Request} {reply : Reply}
    (answered : IsAnswered (outcomeOf request reply)) : reply.IsAnswer := by
  -- Faults and releases give other outcomes, which the caller can tell.
  cases reply with
  | result value => trivial
  | error e => trivial
  | fault reason => exact answered.elim
  | released => exact answered.elim

/-- A message that is a response brings what it says to the request of its number. -/
theorem broughtBy_of_response {m : Message} {number : Nat} {reply : Reply}
    (told : responseOf? m = some (number, reply)) :
    broughtBy m = (fun id => numberAt id == number, reply) := by
  -- A null id is no number.
  unfold broughtBy
  split
  · rename_i isNull noMethod
    simp [responseOf?, isNull, noMethod, numberOf?] at told
  · rw [told]

/-- What a message brings to a request is its response, or a fault for all. -/
theorem broughtBy_cases {m : Message} {id : Nat} (picks : (broughtBy m).1 id = true) :
    responseOf? m = some (numberAt id, (broughtBy m).2) ∨
      broughtBy m = (fun _ => true, .fault (rejection m.error)) := by
  unfold broughtBy at picks ⊢
  -- A message without an id and a method rejects all; any other picks by the number it names.
  split
  · exact .inr rfl
  · rename_i notNull
    split at picks
    · rename_i isNull noMethod
      exact absurd noMethod (notNull isNull)
    · refine .inl ?_
      cases told : responseOf? m with
      | none => simp [told] at picks
      | some response =>
        obtain ⟨number, reply⟩ := response
        simp only [told, beq_iff_eq] at picks
        rw [picks]

/-- A message is taken by a reader that reads, from the first frame of the stream. -/
theorem reads_of_message {event : Event} {m : Message} (taken : c.message? event = some m) :
    event = .read ∧ c.reader = .reading ∧
      ∃ payload rest, readFrame c.inboundEnded c.inbound = .frame payload rest ∧
        Message.ofPayload payload = .ok m := by
  -- Only reading takes a message.
  cases event with
  | read =>
    simp only [message?, taken?, Option.bind_eq_some_iff] at taken
    obtain ⟨payload, found, said⟩ := taken
    split at found
    · rename_i reading frame
      cases found
      refine ⟨rfl, reading, payload, _, frame, ?_⟩
      cases parsed : Message.ofPayload payload with
      | error fault => simp [parsed, Except.toOption] at said
      | ok m' => simpa [parsed, Except.toOption] using said
    · cases found
  | _ => simp [message?, taken?] at taken

/-- A message that is taken brings what it says. -/
theorem brought_of_message {event : Event} {m : Message} (taken : c.message? event = some m) :
    c.brought event = broughtBy m := by
  -- A message is what a read takes, and what the read brings is told by it.
  obtain ⟨rfl, reading, payload, rest, frame, parsed⟩ := reads_of_message taken
  simp only [brought, reading, frame, parsed]

/-- A response that is taken is said by a message that is taken. -/
theorem message_of_response {event : Event} {response : Nat × Reply}
    (taken : c.response? event = some response) :
    ∃ m, c.message? event = some m ∧ responseOf? m = some response := by
  simpa [response?, Option.bind_eq_some_iff] using taken

/-- A response that is taken brings what it says to the request of its number. -/
theorem brought_of_response {event : Event} {number : Nat} {reply : Reply}
    (taken : c.response? event = some (number, reply)) :
    c.brought event = (fun id => numberAt id == number, reply) := by
  -- The response is that of a message, which brings it to all who have its number.
  obtain ⟨m, message, told⟩ := message_of_response taken
  rw [brought_of_message message, broughtBy_of_response told]

/-- What the reader brings to a request is its response, a fault for all, or a release because of the
end. -/
theorem brought_read_cases {id : Nat} (picks : (c.brought .read).1 id = true) :
    c.response? .read = some (numberAt id, (c.brought .read).2) ∨
    (∃ reason, c.brought .read = (fun _ => true, .fault reason)) ∨
    ((c.brought .read).2 = .released ∧ (c.step .read).table.closed = true) := by
  -- By what the reader finds, which brings something only if it is reading.
  cases reading : c.reader with
  | refusing frame => simp [brought, reading] at picks
  | ended => simp [brought, reading] at picks
  | reading =>
    cases frame : readFrame c.inboundEnded c.inbound with
    | unfinished => simp [brought, reading, frame] at picks
    | ended =>
      -- The end of the stream closes the table.
      refine .inr (.inr ⟨by simp only [brought, reading, frame], ?_⟩)
      simp only [step, read, reading, frame]
      rfl
    | faulty fault =>
      -- A malformed frame is told to everybody, and any other fault only closes.
      cases malformed : fault.isMalformed with
      | true =>
        refine .inr (.inl ⟨s!"malformed frame from compiler: {fault.message}", ?_⟩)
        simp only [brought, reading, frame, malformed, if_true]
      | false =>
        refine .inr (.inr ⟨?_, ?_⟩)
        · simp only [brought, reading, frame, malformed, Bool.false_eq_true, if_false]
        · simp only [step, read, reading, frame, malformed, Bool.false_eq_true, if_false]
          rfl
    | frame payload rest =>
      cases parsed : Message.ofPayload payload with
      | error fault => simp [brought, reading, frame, parsed] at picks
      | ok m =>
        -- A message picks whom it answers, or everybody with a fault.
        have taken : c.message? .read = some m := by
          simp only [message?, taken?, reading, frame, Option.bind_some, parsed]
          rfl
        rw [brought_of_message taken] at picks ⊢
        refine (broughtBy_cases picks).imp (fun told => ?_) fun fault => .inl ⟨_, fault⟩
        rw [response?, taken, Option.bind_some, told]

/-- Whatever an event brings as an answer is a response that it takes. -/
theorem response_of_brought {event : Event} {id : Nat} (picks : (c.brought event).1 id = true)
    (isAnswer : (c.brought event).2.IsAnswer) :
    c.response? event = some (numberAt id, (c.brought event).2) := by
  -- The other events bring releases, and a bad frame brings a fault.
  cases event with
  | read =>
    rcases brought_read_cases picks with told | ⟨reason, fault⟩ | ⟨released, _⟩
    · exact told
    · rw [fault] at isAnswer
      exact isAnswer.elim
    · rw [released] at isAnswer
      exact isAnswer.elim
  | register other =>
    simp only [brought] at isAnswer
    split at isAnswer <;> exact isAnswer.elim
  | failWrite fault =>
    simp only [brought] at isAnswer
    split at isAnswer <;> exact isAnswer.elim
  | failRead =>
    simp only [brought] at isAnswer
    split at isAnswer <;> exact isAnswer.elim
  | close => exact isAnswer.elim
  | _ => simp [brought] at picks

/-- The responses that the reader takes in a run, in their order. -/
def responses (c : Connection) : List Event → List (Nat × Reply)
  | [] => []
  | event :: events => (c.response? event).toList ++ (c.step event).responses events

theorem responses_append (c : Connection) (first second : List Event) :
    c.responses (first ++ second) = c.responses first ++ (c.run first).responses second := by
  -- What the later events bring is heard by the connection that the first ones left.
  induction first generalizing c with
  | nil => rfl
  | cons event first ih =>
    simp only [List.cons_append, responses, List.append_assoc, ih]
    rfl

/--
The request has entered the table in the run, and this is what the first response with its number
said that was taken after that, if there was one.
-/
def Heard (c : Connection) (events : List Event) (id : Nat) (first : Option Reply) : Prop :=
  ∃ before entering after, events = before ++ entering :: after ∧
    (c.run before).Enters entering id ∧
    ((c.run (before ++ [entering])).responses after).lookup (numberAt id) = first

namespace Heard

variable {events : List Event} {id : Nat} {first : Option Reply}

/-- Whoever enters the table has heard nothing yet. -/
theorem ofEnters {entering : Event} (enters : (c.run events).Enters entering id) :
    c.Heard (events ++ [entering]) id none :=
  ⟨events, entering, [], rfl, enters, rfl⟩

/-- Whoever has entered the table is one of the requests ever made. -/
theorem known (heard : c.Heard events id first) : id < (c.run events).calls.length := by
  -- An outcome is heard by a request that was made.
  obtain ⟨before, entering, after, rfl, ⟨_, fresh, _⟩, _⟩ := heard
  rw [run_append]
  exact Nat.lt_of_lt_of_le (lt_of_stageOf? fresh) (length_le_run _ _)

/-- Only one who has heard nothing can hear something. -/
theorem append (heard : c.Heard events id first) (more : List Event) :
    c.Heard (events ++ more) id
      (first.or (((c.run events).responses more).lookup (numberAt id))) := by
  -- What is taken later comes behind what was taken before.
  obtain ⟨before, entering, after, rfl, enters, said⟩ := heard
  refine ⟨before, entering, after ++ more, by simp, enters, ?_⟩
  rw [responses_append, List.lookup_append, said, ← run_append]
  simp

/-- What was heard first remains so. -/
theorem stays {reply : Reply} (heard : c.Heard events id (some reply)) (more : List Event) :
    c.Heard (events ++ more) id (some reply) :=
  heard.append more

/-- One event more says what its response says. -/
theorem next (heard : c.Heard events id none) (event : Event) :
    c.Heard (events ++ [event]) id
      (((c.run events).response? event).toList.lookup (numberAt id)) := by
  -- The event comes behind the run that was heard.
  simpa [responses] using heard.append [event]

end Heard

/-- A request that is fresh no more is never fresh again. -/
theorem not_fresh_run (o : Orderly c) {id : Nat} {stage : Stage}
    (found : c.stageOf? id = some stage) (notFresh : stage ≠ .fresh) (events : List Event) :
    ∃ later, (c.run events).stageOf? id = some later ∧ later ≠ .fresh := by
  -- No event takes a request back to its beginning.
  induction events generalizing c stage with
  | nil => exact ⟨stage, found, notFresh⟩
  | cons event events ih =>
    obtain ⟨after, here, goes⟩ := goes_step o event found
    refine ih (o.step event) here ?_
    rintro rfl
    cases goes
    exact notFresh rfl

/-- A request that has entered the table does not enter it again. -/
theorem enters_once (o : Orderly c) {entering again : Event} {id : Nat} (between : List Event)
    (enters : c.Enters entering id) : ¬ (c.run (entering :: between)).Enters again id := by
  -- A request that has entered is not fresh again, whatever happens.
  rintro ⟨_, fresh, _⟩
  obtain ⟨later, found, notFresh⟩ :=
    not_fresh_run (o.step entering) (stageOf?_of_enters enters) (by simp) between
  exact notFresh (Option.some.inj (found.symm.trans fresh))

/-- What a request heard first is one thing. -/
theorem Heard.unique (o : Orderly c) {events : List Event} {id : Nat} {one other : Option Reply}
    (first : c.Heard events id one) (second : c.Heard events id other) : one = other := by
  -- Both count from the one moment at which the request has entered the table.
  obtain ⟨before, entering, after, rfl, enters, said⟩ := first
  obtain ⟨before', entering', after', cut, enters', said'⟩ := second
  rcases List.append_eq_append_iff.mp cut with ⟨between, rfl, rest⟩ | ⟨between, rfl, rest⟩
  · cases between with
    | nil =>
      obtain ⟨rfl, rfl⟩ : entering = entering' ∧ after = after' := by simpa using rest
      rw [← said, ← said', List.append_nil]
    | cons event between =>
      obtain ⟨rfl, _⟩ : entering = event ∧ after = between ++ entering' :: after' := by
        simpa using rest
      rw [run_append] at enters'
      exact absurd enters' (enters_once (o.run before) between enters)
  · cases between with
    | nil =>
      obtain ⟨rfl, rfl⟩ : entering' = entering ∧ after' = after := by simpa using rest
      rw [← said, ← said', List.append_nil]
    | cons event between =>
      obtain ⟨rfl, _⟩ : entering' = event ∧ after' = between ++ entering :: after := by
        simpa using rest
      rw [run_append] at enters
      exact absurd enters (enters_once (o.run before') between enters')

/-- What a run has brought to its requests is what these heard first. -/
structure Correlated (first : Connection) (events : List Event) : Prop where
  awaits : ∀ id ∈ (first.run events).table.waiters, first.Heard events id none
  has : ∀ id reply, (first.run events).slotOf? id = some reply → reply.IsAnswer →
    first.Heard events id (some reply)
  ended : ∀ id outcome, (first.run events).stageOf? id = some (.finished outcome) →
    IsAnswered outcome →
      ∃ request reply, (first.run events).requestOf? id = some request ∧
        first.Heard events id (some reply) ∧ outcome = outcomeOf request reply

namespace Correlated

/-- Nothing has come on a new connection. -/
theorem start (capacity : Nat) : Correlated (start capacity) [] := by
  -- At the start there are no requests.
  constructor <;> simp [Connection.start, run, stageOf?, slotOf?]

/-- Every event brings to the requests only what they hear first. -/
theorem step {first : Connection} {events : List Event} (k : Correlated first events)
    (o : Orderly (first.run events)) (event : Event) : Correlated first (events ++ [event]) := by
  -- The waiting ones have heard nothing, so that what comes to them is what they hear first.
  have after : first.run (events ++ [event]) = (first.run events).step event :=
    run_concat ..
  constructor
  · intro id waits
    rw [after, mem_waiters_step] at waits
    rcases waits with ⟨waited, unpicked⟩ | enters
    · have silent : ((first.run events).response? event).toList.lookup (numberAt id) = none := by
        cases taken : (first.run events).response? event with
        | none => rfl
        | some response =>
          obtain ⟨number, reply⟩ := response
          rw [brought_of_response taken] at unpicked
          simpa using unpicked
      exact silent ▸ (k.awaits id waited).next event
    · exact Heard.ofEnters enters
  · intro id reply has isAnswer
    rw [after, slotOf?_step, slotOf?_bring] at has
    split at has
    · rename_i picked
      obtain ⟨waited, picks, _⟩ := picked
      obtain rfl : (Connection.brought (first.run events) event).2 = reply := by simpa using has
      have said := response_of_brought picks isAnswer
      have heard := (k.awaits id waited).next event
      rw [said] at heard
      simpa using heard
    · exact (k.has id reply has isAnswer).stays [event]
  · intro id outcome found answered
    rw [after] at found ⊢
    rcases came_step o found with ⟨_, new⟩ | ⟨old, before, goes⟩
    · cases new
    · cases goes with
      | stays =>
        obtain ⟨request, reply, asks, heard, same⟩ := k.ended id outcome before answered
        exact ⟨request, reply, requestOf?_step asks, heard.stays [event], same⟩
      | refused => exact answered.elim
      | failed => exact answered.elim
      | answered _ request reply asks has =>
        have heard := k.has id reply has (isAnswer_of_isAnswered answered)
        exact ⟨request, reply, requestOf?_step asks, heard.stays _, rfl⟩

/-- Every run of a new connection brings to its requests what they hear first. -/
theorem run (capacity : Nat) (events : List Event) :
    Correlated (Connection.start capacity) events := by
  -- By induction on the events, from the last one back.
  induction events using List.reverseRecOn with
  | nil => exact start capacity
  | append_singleton events event ih =>
    exact ih.step ((Orderly.start capacity).run events) event

end Correlated

/-- The event brings something to the request. -/
def Reaches (c : Connection) (event : Event) (id : Nat) : Prop :=
  (c.step event).slotOf? id ≠ c.slotOf? id

/-- Whoever is reached is picked by what the event brings. -/
theorem picked_of_reaches {event : Event} {id : Nat} (reaches : c.Reaches event id) :
    (c.brought event).1 id = true ∧ (c.step event).slotOf? id = some (c.brought event).2 := by
  -- Only the slot of a waiter that was picked is filled.
  rw [Reaches] at reaches
  rw [slotOf?_step, slotOf?_bring] at reaches ⊢
  split at reaches
  · rename_i picked
    exact ⟨picked.2.1, by rw [if_pos picked]⟩
  · exact absurd rfl reaches

/-- Numbers of requests differ as long as the counter has not begun again. -/
theorem numberAt_inj {i j : Nat} (first : i < 2 ^ 64) (second : j < 2 ^ 64)
    (same : numberAt i = numberAt j) : i = j := by
  -- Below 2^64 the number of a request is the request itself.
  have word : UInt64.size = 2 ^ 64 := rfl
  rwa [numberAt, numberAt, word, Nat.mod_eq_of_lt first, Nat.mod_eq_of_lt second] at same

/-- The connection without the first frame of those that have arrived. -/
def dropFrame (c : Connection) : Connection :=
  match readFrame c.inboundEnded c.inbound with
  | .frame _ rest => { c with inbound := rest }
  | _ => c

/-- A response names a number, and no method. -/
theorem names_of_response {m : Message} {response : Nat × Reply}
    (told : responseOf? m = some response) :
    ∃ id, m.id = some id ∧ id ≠ .null ∧ m.method = none := by
  -- A message with a method is no response, and neither is one whose id is `null` or missing.
  cases method : m.method with
  | some name => cases id : m.id <;> simp [responseOf?, id, method] at told
  | none =>
    cases id : m.id with
    | none => simp [responseOf?, id] at told
    | some document =>
      refine ⟨document, rfl, ?_, rfl⟩
      rintro rfl
      simp [responseOf?, id, method, numberOf?] at told

/-- A response that is taken is cut off the stream, and its reply is brought. -/
theorem step_of_response {event : Event} {number : Nat} {reply : Reply}
    (taken : c.response? event = some (number, reply)) :
    c.step event = c.dropFrame.replyTo number reply := by
  obtain ⟨m, message, told⟩ := message_of_response taken
  obtain ⟨rfl, reading, payload, rest, frame, parsed⟩ := reads_of_message message
  obtain ⟨id, named, notNull, noMethod⟩ := names_of_response told
  simp only [step, read, reading, frame, takePayload, parsed, dropFrame]
  unfold takeMessage
  -- It names a number and no method, and so neither rejects nor asks anything.
  split
  · rename_i isNull _
    rw [named, Option.some.injEq] at isNull
    exact absurd isNull notNull
  · rename_i isMethod
    rw [noMethod] at isMethod
    cases isMethod
  · rw [told]

/-- A reply that only finds requests that were given up makes no difference. -/
theorem alike_bring {test : Nat → Bool}
    (stale : ∀ id ∈ c.table.waiters, test id = true → c.stageOf? id = some .abandoned)
    (reply : Reply) : Alike (c.bring test reply) c := by
  -- Whoever has not given up is not picked.
  have unpicked (id : Nat) (present : c.stageOf? id ≠ some .abandoned) :
      ¬ (id ∈ c.table.waiters ∧ test id = true) := fun picked => present (stale id picked.1 picked.2)
  constructor
  · intro id
    simp
  · intro id
    simp
  · intro id present
    rw [stageOf?_bring] at present
    rw [slotOf?_bring, if_neg fun picked => unpicked id present ⟨picked.1, picked.2.1⟩]
  · intro id present
    rw [stageOf?_bring] at present
    rw [mem_waiters_bring, and_iff_left_iff_imp]
    intro waits
    by_contra picks
    exact unpicked id present ⟨waits, by simpa using picks⟩
  · rfl

/-- No request that is under way without a reply has the number. -/
def Stale (c : Connection) (number : Nat) : Prop :=
  ∀ id stage, c.stageOf? id = some stage → stage.UnderWay → numberAt id = number →
    c.slotOf? id ≠ none

/-- A response that comes twice, too late, or for nobody makes no difference. -/
theorem alike_of_stale (a : Accounted c) {event : Event} {number : Nat} {reply : Reply}
    (taken : c.response? event = some (number, reply)) (stale : c.Stale number) :
    Alike (c.step event) c.dropFrame := by
  rw [step_of_response taken]
  have calls : c.dropFrame.calls = c.calls := by unfold dropFrame; split <;> rfl
  have table : c.dropFrame.table = c.table := by unfold dropFrame; split <;> rfl
  refine alike_bring (fun id waits picks => ?_) reply
  rw [table] at waits
  -- Of those who wait under the number, none is under way any more.
  obtain ⟨stage, found, underWay | abandoned⟩ := a.live id waits
  · exact absurd (a.unanswered id waits)
      (stale id stage found underWay (by simpa using picks))
  · rw [stageOf?, calls]
    rw [stageOf?, abandoned] at found
    exact found

/--
Replies find their requests, in every run with fewer requests than there are numbers. No two
requests have the same number. What is finished stays as it is. A request that ends with a result,
with a result of another shape, or with a remote error ends with what the first response with its
number said that was taken after it had entered the table. A frame reaches at most one request,
unless its null id concerns them all, and what it brings as an answer it says under the number of
that request. A response that comes twice, too late, or for nobody changes no request ever, as if
its frame had not been there, and every response after the one that was heard is of that kind.
-/
theorem replies_correlated (capacity : Nat) (events : List Event)
    (few : ((start capacity).run events).calls.length < 2 ^ 64) :
    let c := (start capacity).run events
    (∀ i j, i < c.calls.length → j < c.calls.length → numberAt i = numberAt j → i = j) ∧
    (∀ id outcome, c.stageOf? id = some (.finished outcome) →
      ∀ more, (c.run more).stageOf? id = some (.finished outcome)) ∧
    (∀ id outcome, c.stageOf? id = some (.finished outcome) → IsAnswered outcome →
      ∃ request reply, c.requestOf? id = some request ∧
        (start capacity).Heard events id (some reply) ∧ outcome = outcomeOf request reply) ∧
    (∀ event m, c.message? event = some m → ¬ (m.id = some .null ∧ m.method = none) →
      ∀ i j, c.Reaches event i → c.Reaches event j → i = j) ∧
    (∀ event id reply, c.Reaches event id → (c.step event).slotOf? id = some reply →
      reply.IsAnswer → c.response? event = some (numberAt id, reply)) ∧
    (∀ id reply, (start capacity).Heard events id (some reply) → c.Stale (numberAt id)) ∧
    (∀ event number reply, c.response? event = some (number, reply) → c.Stale number →
      ∀ more id, ((c.step event).run more).stageOf? id = (c.dropFrame.run more).stageOf? id) := by
  -- The invariants of order, of account and of correlation hold in every run.
  intro c
  have orderly : Orderly c := (Orderly.start capacity).run events
  have accounted : Accounted c := (Accounted.start capacity).run (.start capacity) events
  have correlated := Correlated.run capacity events
  refine ⟨fun i j first second => numberAt_inj
      (Nat.lt_trans first few) (Nat.lt_trans second few),
    fun id outcome found more => finished_run orderly found more, correlated.ended, ?_, ?_, ?_, ?_⟩
  · intro event m taken names i j reachesI reachesJ
    have within (id : Nat) (reaches : c.Reaches event id) : id < 2 ^ 64 := by
      rw [Reaches, slotOf?_step, slotOf?_bring] at reaches
      split at reaches
      · rename_i picked
        exact Nat.lt_trans picked.2.2 few
      · exact absurd rfl reaches
    have picksI := (picked_of_reaches reachesI).1
    have picksJ := (picked_of_reaches reachesJ).1
    rw [brought_of_message taken, broughtBy] at picksI picksJ
    split at picksI
    · rename_i isNull noMethod
      exact absurd ⟨isNull, noMethod⟩ names
    · cases told : responseOf? m with
      | none => simp [told] at picksI
      | some response =>
        simp only [told, beq_iff_eq] at picksI picksJ
        exact numberAt_inj (within i reachesI) (within j reachesJ) (picksI.trans picksJ.symm)
  · intro event id reply reaches has isAnswer
    obtain ⟨picks, brings⟩ := picked_of_reaches reaches
    obtain rfl : (c.brought event).2 = reply := by simpa [brings] using has
    exact response_of_brought picks isAnswer
  · intro id reply heard other stage found underWay number
    obtain rfl : other = id := numberAt_inj (Nat.lt_trans (lt_of_stageOf? found) few)
      (Nat.lt_trans heard.known few) number
    rcases accounted.underWay other stage found underWay with has | waits
    · exact has
    · cases Heard.unique (.start capacity) heard (correlated.awaits other waits)
  · intro event number reply taken stale more id
    exact ((alike_of_stale accounted taken stale).run (orderly.step event) more).stage id

/-- A run in which two requests are written, and the second one is answered first. -/
def crossedRun : List Event :=
  let answer (id result : Int) : Event :=
    .arrive (writeFrame (Utf8.encode (Json.compact (.object [("id", .int id),
      ("result", .int result)]))))
  [.issue ⟨"a", .null, .any⟩, .issue ⟨"b", .null, .any⟩, .register 0, .register 1, .queue 0,
    .queue 1, .grant, .write 4096, .grant, .write 4096, answer 1 7, answer 0 8, .read, .read,
    .finish 0]

/-- An answer that comes behind another one still finds its request. -/
theorem replies_correlated_crossed :
    ((start 4096).run crossedRun).calls.length < 2 ^ 64 ∧
      ∃ request reply, ((start 4096).run crossedRun).requestOf? 0 = some request ∧
        (start 4096).Heard crossedRun 0 (some reply) ∧ .ok (.int 8) = outcomeOf request reply := by
  -- The second call is answered first, and each outcome still follows its own request.
  have few : ((start 4096).run crossedRun).calls.length < 2 ^ 64 := by
    have counted := congrArg List.length (requests_run (start 4096) crossedRun)
    rw [requests, List.length_map] at counted
    rw [counted]
    decide
  have found : ((start 4096).run crossedRun).stageOf? 0 = some (.finished (.ok (.int 8))) := by
    decide +kernel
  exact ⟨few, (replies_correlated 4096 crossedRun few).2.2.1 0 _ found trivial⟩

end Connection

end TemplateFacts.Wire
