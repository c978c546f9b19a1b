import TemplateFacts.Proofs.Wire.Smooth

/-!
Answers of a smooth run: nothing but answers comes to the requests, and a request that the other side
answers ends as the first answer with its number says.
-/

namespace TemplateFacts.Wire.Connection

variable {c : Connection} {event : Event}

/-- Nothing but answers has come to the requests, and nobody has given up. -/
structure Answers (c : Connection) : Prop where
  slots : ∀ id reply, c.slotOf? id = some reply → reply.IsAnswer
  finished : ∀ id outcome, c.stageOf? id = some (.finished outcome) → IsAnswered outcome
  present : ∀ id, c.stageOf? id ≠ some .abandoned

/-- A request that takes an answer is answered. -/
theorem isAnswered_of_isAnswer {request : Request} {reply : Reply} (isAnswer : reply.IsAnswer) :
    IsAnswered (outcomeOf request reply) := by
  -- A result that does not fit and an error are answers too.
  cases reply with
  | result value =>
    show IsAnswered ((request.result.ofJson value).mapError .serialization)
    cases request.result.ofJson value with
    | ok j => trivial
    | error fault => trivial
  | error e => trivial
  | fault reason => exact isAnswer.elim
  | released => exact isAnswer.elim

/-- What a quiet message brings is an answer. -/
theorem answer_of_broughtBy {m : Message} (quiet : m.id = none ∨ m.method = none ∧ m.id ≠ some .null)
    {id : Nat} (picks : (broughtBy m).1 id = true) : (broughtBy m).2.IsAnswer := by
  unfold broughtBy at picks ⊢
  split
  · -- With a null identifier and no method everybody is told, and a quiet message is none of these.
    rename_i isNull noMethod
    rcases quiet with none | ⟨_, notNull⟩
    · rw [none] at isNull
      cases isNull
    · exact absurd isNull notNull
  · rename_i notNull
    split at picks
    · -- A method together with an identifier is left out as well.
      rename_i isNull noMethod
      exact absurd noMethod (notNull isNull)
    · cases told : responseOf? m with
      | none =>
        rw [told] at picks
        cases picks
      | some response =>
        -- A response says a result or an error.
        simp only [responseOf?] at told
        split at told
        · obtain ⟨number, _, same⟩ := Option.map_eq_some_iff.mp told
          subst same
          cases m.error with
          | none => trivial
          | some e => trivial
        · cases told

namespace Answers

/-- Nothing has come on a new connection. -/
theorem start (capacity : Nat) : Answers (start capacity) := by
  -- Nobody has been told anything, for nobody has called.
  constructor
  · intro id reply has
    cases has
  · intro id outcome found
    cases found
  · intro id found
    cases found

/-- The reader waits, or it finds a quiet payload. -/
def ReadsQuiet (c : Connection) : Prop :=
  readFrame c.inboundEnded c.inbound = .unfinished ∨
    ∃ payload left, readFrame c.inboundEnded c.inbound = .frame payload left ∧ Quiet payload

/-- What a smooth event brings is an answer. -/
theorem of_brought (p : Open c) (accounted : Accounted c) (few : c.calls.length < 2 ^ 64)
    (smooth : event.IsSmooth) (reads : ReadsQuiet c) {id : Nat} (waits : id ∈ c.table.waiters)
    (picks : (c.brought event).1 id = true) : (c.brought event).2.IsAnswer := by
  cases event with
  | register other =>
    -- No other request has the number, and the request itself does not wait yet.
    exfalso
    simp only [brought] at picks
    split at picks
    · rename_i enters
      rw [beq_iff_eq] at picks
      have first : id < 2 ^ 64 := Nat.lt_trans (accounted.known waits) few
      have second : other < 2 ^ 64 := Nat.lt_trans (lt_of_stageOf? enters.1) few
      obtain rfl := numberAt_inj first second picks
      exact accounted.not_waits_of_fresh enters.1 waits
    · cases picks
  | read =>
    rcases reads with unfinished | ⟨payload, left, frame, quiet⟩
    · simp only [brought, p.reading, unfinished] at picks
      -- Nothing is taken while the frame is not whole.
      cases picks
    · cases said : Message.ofPayload payload with
      | error fault =>
        -- A payload that cannot be read is a fault, and picks nobody.
        simp only [brought, p.reading, frame, said] at picks
        cases picks
      | ok m =>
        simp only [brought, p.reading, frame, said] at picks ⊢
        exact answer_of_broughtBy (quiet m said) picks
  | issue request => cases picks
  | queue other => cases picks
  | grant => cases picks
  | write count => cases picks
  | finish other => cases picks
  | arrive bytes => cases picks
  | deliver count => cases picks
  | failWrite fault => exact smooth.elim
  | abandon other => exact smooth.elim
  | endInbound => exact smooth.elim
  | failRead => exact smooth.elim
  | hangUp => exact smooth.elim
  | close => exact smooth.elim
  | failShut fault => exact smooth.elim
  | giveUp index => exact smooth.elim

/-- No smooth event brings anything but answers, and nobody gives up. -/
theorem step (a : Answers c) (o : Orderly c) (p : Open c) (accounted : Accounted c)
    (few : c.calls.length < 2 ^ 64) (smooth : event.IsSmooth) (reads : ReadsQuiet c) :
    Answers (c.step event) := by
  constructor
  · intro id reply has
    rw [slotOf?_step, slotOf?_bring] at has
    split at has
    · -- What comes now is an answer, as nothing else is brought.
      rename_i picked
      rw [← Option.some.inj has]
      exact of_brought p accounted few smooth reads picked.1 picked.2.1
    · exact a.slots id reply has
  · -- A request ends with what it has, as it is neither refused nor cut off.
    intro id outcome found
    rcases came_step o found with ⟨_, new⟩ | ⟨old, before, goes⟩
    · cases new
    · cases goes with
      | stays => exact a.finished id outcome before
      | refused _ closed =>
        rw [p.isOpen] at closed
        cases closed
      | failed => exact smooth.elim
      | answered _ request reply _ has => exact isAnswered_of_isAnswer (a.slots id reply has)
  · intro id found
    -- A request stands where it stood, or ends with what it has.
    rcases came_step o found with ⟨_, new⟩ | ⟨old, before, goes⟩
    · cases new
    · cases goes with
      | stays => exact a.present id before
      | abandoned => exact smooth.elim

end Answers

section Receiving

variable {capacity : Nat} {events : List Event} {payloads : List (List UInt8)}

/-- The first part of a smooth run is one. -/
theorem Receiving.first {first second : List Event} (r : Receiving capacity (first ++ second) payloads) :
    Receiving capacity first payloads where
  smooth event member := r.smooth event (List.mem_append_left _ member)
  sends := by
    -- What arrived in the first part is the beginning of what arrived in all.
    refine List.IsPrefix.trans ?_ r.sends
    rw [arrived_append]
    exact List.prefix_append _ _
  accepted := r.accepted
  quiet := r.quiet

/-- The reader of a smooth run finds nothing but quiet payloads. -/
theorem Receiving.readsQuiet (r : Receiving capacity events payloads) :
    Answers.ReadsQuiet ((start capacity).run events) := by
  -- The next frame, if there is one, is one of the payloads that were sent.
  obtain ⟨taken, rest, rfl, reads⟩ := r.reads
  rcases reads.stands.readsOn reads.begins
    fun payload member => r.accepted payload (List.mem_append_right _ member) with
    ⟨unfinished, _⟩ | ⟨payload, more, left, rfl, _, frame⟩
  · exact .inl unfinished
  · exact .inr ⟨payload, left, frame, r.quiet payload (by simp)⟩

/-- A smooth run with fewer requests than there are numbers brings nothing but answers. -/
theorem Receiving.answers (r : Receiving capacity events payloads)
    (few : ((start capacity).run events).calls.length < 2 ^ 64) :
    Answers ((start capacity).run events) := by
  -- By induction on the events, from the last one back.
  induction events using List.reverseRecOn with
  | nil => exact .start capacity
  | append_singleton events event ih =>
    have after : (start capacity).run (events ++ [event]) = ((start capacity).run events).step event :=
      run_concat ..
    have fewer : ((start capacity).run events).calls.length < 2 ^ 64 := by
      refine Nat.lt_of_le_of_lt ?_ few
      rw [run_append]
      exact length_le_run _ _
    obtain ⟨taken, rest, _, reads⟩ := r.first.reads
    rw [after]
    exact (ih r.first fewer).step ((Orderly.start capacity).run events) reads.stands
      ((Accounted.start capacity).run (.start capacity) events) fewer (r.smooth event (by simp))
      r.first.readsQuiet

/-- A request that is not fresh any more has entered the table in a smooth run. -/
theorem Receiving.entered (r : Receiving capacity events payloads) {id : Nat} {stage : Stage}
    (found : ((start capacity).run events).stageOf? id = some stage) (notFresh : stage ≠ .fresh) :
    ∃ before entering after, events = before ++ entering :: after ∧
      ((start capacity).run before).Enters entering id := by
  -- By induction on the events, from the last one back.
  induction events using List.reverseRecOn generalizing stage with
  | nil => cases found
  | append_singleton events event ih =>
    have earlier {old : Stage} (found : ((start capacity).run events).stageOf? id = some old)
        (notFresh : old ≠ .fresh) : ∃ before entering after,
          events ++ [event] = before ++ entering :: after ∧
            ((start capacity).run before).Enters entering id := by
      obtain ⟨before, entering, after, rfl, enters⟩ := ih r.first found notFresh
      exact ⟨before, entering, after ++ [event], by simp, enters⟩
    have now : (((start capacity).run events).step event).stageOf? id = some stage := by
      rw [run_append] at found
      exact found
    obtain ⟨taken, rest, _, reads⟩ := r.first.reads
    rcases came_step ((Orderly.start capacity).run events) now with ⟨_, new⟩ | ⟨old, before, goes⟩
    · exact absurd new notFresh
    · by_cases fresh : old = .fresh
      · -- This is the event by which the request enters.
        subst fresh
        cases goes with
        | stays => exact absurd rfl notFresh
        | registered _ isOpen => exact ⟨events, .register id, [], rfl, rfl, before, isOpen⟩
        | refused _ closed =>
          rw [reads.stands.isOpen] at closed
          cases closed
        | abandoned => exact (r.smooth (.abandon id) (by simp)).elim
      · exact earlier before fresh

/--
The other side answers the request at a place: the first payload that names the number of the request
is wanted, and has not arrived before the request has entered the table.
-/
structure Responds (capacity : Nat) (events : List Event) (payloads : List (List UInt8)) (id : Nat)
    (wanted : List UInt8 → Prop) : Prop where
  first : ∃ front answer behind, payloads = front ++ answer :: behind ∧
    (∀ other ∈ front, ∀ said, responseIn? other = some said → said.1 ≠ numberAt id) ∧ wanted answer ∧
    ∀ first second, events = first ++ second → stream (front ++ [answer]) <+: arrived first →
      ∃ stage, ((start capacity).run first).stageOf? id = some stage ∧ stage ≠ .fresh

/-- An answer that is wanted is also what follows from this. -/
theorem Responds.mono {id : Nat} {wanted weaker : List UInt8 → Prop}
    (responds : Responds capacity events payloads id wanted)
    (follows : ∀ payload, wanted payload → weaker payload) :
    Responds capacity events payloads id weaker := by
  -- The first answer is the same one, of which less is said.
  obtain ⟨front, answer, behind, split, others, said, asked⟩ := responds.first
  exact ⟨front, answer, behind, split, others, follows answer said, asked⟩

/-- A request that has entered the table before anything arrives is answered by what arrives later. -/
theorem Responds.of_entered {asks later : List Event} {id : Nat} {wanted : List UInt8 → Prop}
    (front : List (List UInt8)) {behind : List (List UInt8)} {answer : List UInt8}
    (silent : arrived asks = []) {stage : Stage} (entered : ((start capacity).run asks).stageOf? id = some stage)
    (notFresh : stage ≠ .fresh)
    (others : ∀ other ∈ front, ∀ said, responseIn? other = some said → said.1 ≠ numberAt id)
    (answers : wanted answer) :
    Responds capacity (asks ++ later) (front ++ answer :: behind) id wanted := by
  refine ⟨front, answer, behind, rfl, others, answers, fun first second same arrives => ?_⟩
  rcases List.append_eq_append_iff.mp same with ⟨more, rfl, _⟩ | ⟨more, rfl, _⟩
  · rw [run_append]
    exact not_fresh_run ((Orderly.start capacity).run asks) entered notFresh more
  · -- Nothing has arrived yet, and so no answer has.
    exfalso
    rw [arrived_append] at silent
    have none : arrived first = [] := (List.append_eq_nil_iff.mp silent).1
    rw [none, List.prefix_nil, stream, List.flatMap_append] at arrives
    have frame := (List.append_eq_nil_iff.mp arrives).2
    rw [List.flatMap_cons, List.flatMap_nil, List.append_nil] at frame
    exact writeFrame_ne_nil answer frame

/-- The payload is the response to the request at a place. -/
def Replies (id : Nat) (reply : Reply) (payload : List UInt8) : Prop :=
  responseIn? payload = some (numberAt id, reply)

/-- Payloads of which none names a number say nothing to it. -/
theorem lookup_filterMap_none {taken : List (List UInt8)} {number : Nat}
    (others : ∀ other ∈ taken, ∀ said, responseIn? other = some said → said.1 ≠ number) :
    (taken.filterMap responseIn?).lookup number = none := by
  -- Every response taken so far has another number.
  rw [List.lookup_eq_none_iff]
  rintro ⟨other, reply⟩ member
  obtain ⟨payload, inside, said⟩ := List.mem_filterMap.mp member
  have differs : other ≠ number := others payload inside _ said
  exact bne_iff_ne.mpr (Ne.symm differs)

/-- The first payloads are those before the answer, or the answer is among them. -/
theorem lookup_taken {front behind taken rest : List (List UInt8)} {answer : List UInt8} {id : Nat}
    {reply : Reply} (same : front ++ answer :: behind = taken ++ rest)
    (others : ∀ other ∈ front, ∀ said, responseIn? other = some said → said.1 ≠ numberAt id)
    (tells : Replies id reply answer) :
    ((taken.filterMap responseIn?).lookup (numberAt id) = none ∧ rest ≠ []) ∨
      ((taken.filterMap responseIn?).lookup (numberAt id) = some reply ∧
        front ++ [answer] <+: taken) := by
  have before (taken : List (List UInt8)) (inFront : taken <+: front) :
      (taken.filterMap responseIn?).lookup (numberAt id) = none :=
    lookup_filterMap_none fun other member => others other (inFront.subset member)
  -- By which of the two is longer: what is taken, or what is before the answer.
  rcases List.append_eq_append_iff.mp same with ⟨more, rfl, split⟩ | ⟨more, rfl, split⟩
  · -- All of what is taken lies before the answer.
    cases more with
    | nil =>
      refine .inl ⟨before _ (by simp), ?_⟩
      rintro rfl
      cases split
    | cons first more =>
      obtain ⟨rfl, _⟩ := List.cons.inj split
      refine .inr ⟨?_, ⟨more, by simp⟩⟩
      rw [List.filterMap_append, List.lookup_append, before front List.prefix_rfl,
        List.filterMap_cons_some tells, List.lookup_cons_self]
      rfl
  · -- What is taken ends where the payloads before the answer end, or sooner.
    refine .inl ⟨before taken (List.prefix_append _ _), ?_⟩
    rintro rfl
    simp at split

/-- Every request that has entered the table has heard what the payloads say that were taken. -/
theorem Receiving.heard (r : Receiving capacity events payloads) {id : Nat} {reply : Reply}
    (responds : Responds capacity events payloads id (Replies id reply)) {stage : Stage}
    (found : ((start capacity).run events).stageOf? id = some stage) (notFresh : stage ≠ .fresh)
    {taken rest : List (List UInt8)} (reads : Reads capacity events taken rest) :
    (start capacity).Heard events id ((taken.filterMap responseIn?).lookup (numberAt id)) := by
  obtain ⟨before, entering, after, rfl, enters⟩ := r.entered found notFresh
  obtain ⟨front, answer, behind, split, others, tells, asked⟩ := responds.first
  refine ⟨before, entering, after, rfl, enters, ?_⟩
  -- Until then no payload has named the number.
  have r' : Receiving capacity (before ++ [entering]) payloads := by
    have split : before ++ entering :: after = (before ++ [entering]) ++ after := by simp
    exact Receiving.first (split ▸ r)
  obtain ⟨taken', rest', same', reads'⟩ := r'.reads
  have nothing : ((start capacity).responses (before ++ [entering])).lookup (numberAt id) = none := by
    rw [reads'.said]
    rcases lookup_taken (split ▸ same') others tells with ⟨nowhere, _⟩ | ⟨_, inside⟩
    · -- The answer would have been taken before the request enters, and so before it is asked.
      exact nowhere
    · exfalso
      have arrives : stream (front ++ [answer]) <+: arrived before := by
        have none : entering.arrived = [] := by
          obtain ⟨rfl, _⟩ := enters
          rfl
        have grown : arrived (before ++ [entering]) = arrived before := by
          rw [arrived_append]
          simp [arrived, none]
        rw [← grown, reads'.bytes]
        obtain ⟨more, rfl⟩ := inside
        refine ⟨stream more ++ ((start capacity).run (before ++ [entering])).inbound, ?_⟩
        simp [stream]
      obtain ⟨stage, found, notFresh⟩ := asked before (entering :: after) rfl arrives
      rw [enters.2.1, Option.some.injEq] at found
      exact notFresh found.symm
  -- What is told from then on is therefore what is told in all.
  have total := reads.said
  have cut : before ++ entering :: after = (before ++ [entering]) ++ after := by simp
  rw [cut, responses_append] at total
  rw [← total, List.lookup_append, nothing]
  rfl

/-- A request that the other side answers ends with that answer, if it ends. -/
theorem Receiving.outcome (r : Receiving capacity events payloads)
    (few : ((start capacity).run events).calls.length < 2 ^ 64) {id : Nat} {reply : Reply}
    (responds : Responds capacity events payloads id (Replies id reply)) {outcome : Except Error Json}
    (found : ((start capacity).run events).stageOf? id = some (.finished outcome)) :
    ∃ request, ((start capacity).run events).requestOf? id = some request ∧
      outcome = outcomeOf request reply := by
  obtain ⟨front, answer, behind, split, others, tells, _⟩ := responds.first
  obtain ⟨taken, rest, same, reads⟩ := r.reads
  have answered := (r.answers few).finished id outcome found
  obtain ⟨request, said, asks, heard, rfl⟩ := (Correlated.run capacity events).ended id outcome found
    answered
  have heard' := r.heard responds found (by simp) reads
  -- What it hears first is told by the run and by the payloads, and is the same.
  have unique := Heard.unique (.start capacity) heard heard'
  rcases lookup_taken (split ▸ same) others tells with ⟨nowhere, _⟩ | ⟨here, _⟩
  · rw [nowhere] at unique
    cases unique
  · rw [here, Option.some.injEq] at unique
    exact ⟨request, asks, by rw [unique]⟩

/-- When all payloads are taken, a request that waits for its answer has it. -/
theorem Receiving.has (r : Receiving capacity events payloads) {id : Nat} {reply : Reply}
    (responds : Responds capacity events payloads id (Replies id reply))
    (waits : ((start capacity).run events).stageOf? id = some .waiting)
    (reads : Reads capacity events payloads []) :
    ∃ said, ((start capacity).run events).slotOf? id = some said := by
  obtain ⟨front, answer, behind, split, others, tells, _⟩ := responds.first
  have accounted : Accounted ((start capacity).run events) :=
    (Accounted.start capacity).run (.start capacity) events
  -- It has its answer, or has heard nothing; but the answer is among the payloads that are taken.
  rcases accounted.underWay id .waiting waits trivial with has | awaits
  · exact Option.ne_none_iff_exists'.mp has
  · have silent := (Correlated.run capacity events).awaits id awaits
    have heard := r.heard responds waits (by simp) reads
    have unique := Heard.unique (.start capacity) silent heard
    have same : front ++ answer :: behind = payloads ++ [] := by rw [← split, List.append_nil]
    rcases lookup_taken same others tells with ⟨_, more⟩ | ⟨here, _⟩
    · exact absurd rfl more
    · rw [here] at unique
      cases unique

end Receiving

end TemplateFacts.Wire.Connection
