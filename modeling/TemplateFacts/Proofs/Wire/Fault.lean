import TemplateFacts.Proofs.Wire.Ending

/-!
Faults of the reading side: each of them goes to exactly the requests that wait when the reader meets
it, and to no request that comes later.
-/

namespace TemplateFacts.Wire

namespace Connection

variable {c : Connection} {event : Event} {id : Nat} {reply : Reply}

/--
The event brings the reply to everybody who waits and to nobody else, and leaves nobody waiting. Who
has the reply ends with the error, however far it has come, unless its own writing fails first.
-/
structure Strikes (c : Connection) (event : Event) (reply : Reply) (error : Error) : Prop where
  means : ∀ request, outcomeOf request reply = .error error
  hit : ∀ id ∈ c.table.waiters, (c.step event).Settled id reply
  spared : ∀ id, id ∉ c.table.waiters → (c.step event).slotOf? id = c.slotOf? id
  unmoved : ∀ id, (c.step event).stageOf? id = c.stageOf? id
  emptied : (c.step event).table.waiters = []

/-- What is brought to all who wait strikes exactly them. -/
theorem strikes_of_brought (a : Accounted c) (o : Orderly c) {error : Error}
    (all : c.brought event = (fun _ => true, reply)) (registers : ∀ id, event ≠ .register id)
    (unmoved : ∀ id, (c.step event).stageOf? id = c.stageOf? id)
    (means : ∀ request, outcomeOf request reply = .error error) : c.Strikes event reply error := by
  -- All who wait are picked, so that nobody is left to wait, and nobody else is.
  have picked (id : Nat) : (c.brought event).1 id = true := by rw [all]
  refine ⟨means, fun id waits => ?_, fun id away => Accounted.slotOf?_step_of_not_waits away, unmoved, ?_⟩
  · have settled := settled_step a o waits (picked id) fun stage found => (unmoved id).trans found
    rwa [all] at settled
  · rw [List.eq_nil_iff_forall_not_mem]
    intro id waits
    rcases (mem_waiters_step c event id).mp waits with ⟨_, unpicked⟩ | ⟨same, _⟩
    · rw [picked] at unpicked
      cases unpicked
    · exact registers id same

/-- A reading that fails moves no request. -/
theorem stageOf?_failRead (c : Connection) (id : Nat) : c.failRead.stageOf? id = c.stageOf? id := by
  -- The reader's end fills slots; no request is moved on by it.
  unfold failRead
  split
  · exact stageOf?_bring ..
  · rfl

/-- What comes to a request that waits: its response, a fault, a release because of the end, the sign
that its own writing has failed, or a release because another request has its number. -/
theorem brought_cases (a : Accounted c) (o : Orderly c) (waits : id ∈ c.table.waiters)
    (picks : (c.brought event).1 id = true) :
    c.response? event = some (numberAt id, (c.brought event).2) ∨
    (event = .read ∧ ∃ reason, c.brought event = (fun _ => true, .fault reason)) ∨
    ((c.brought event).2 = .released ∧ (c.step event).table.closed = true) ∨
    (∃ fault, event = .failWrite fault ∧ c.writer? = some (.call id)) ∨
    ((c.brought event).2 = .released ∧
      ∃ other, other ≠ id ∧ other < c.calls.length ∧ numberAt other = numberAt id) := by
  cases event with
  | read =>
    exact (brought_read_cases picks).imp_right fun rest => rest.imp (fun fault => ⟨rfl, fault⟩) .inl
  | register other =>
    -- A request that is registered is fresh, so that it is none of those that wait.
    refine .inr (.inr (.inr (.inr ?_)))
    simp only [brought] at picks ⊢
    split at picks
    · rename_i enters
      rw [if_pos enters]
      refine ⟨rfl, other, ?_, lt_of_stageOf? enters.1, (beq_iff_eq.mp picks).symm⟩
      rintro rfl
      exact a.not_waits_of_fresh enters.1 waits
    · cases picks
  | failWrite fault =>
    -- The frame of another request could not be written, whose number is the same.
    refine .inr (.inr (.inr ?_))
    simp only [brought] at picks ⊢
    split at picks
    · rename_i other holds
      by_cases own : other = id
      · subst own
        exact .inl ⟨fault, rfl, holds⟩
      · have writing : c.stageOf? other = some .writing := (o.writing other).mp holds
        rw [holds]
        exact .inr ⟨rfl, other, own, lt_of_stageOf? writing, (beq_iff_eq.mp picks).symm⟩
    · cases picks
  | failRead =>
    -- A failure to read closes the table.
    refine .inr (.inr (.inl ?_))
    simp only [brought] at picks ⊢
    cases reading : c.reader with
    | reading =>
      refine ⟨rfl, ?_⟩
      simp only [step, failRead, reading]
      rfl
    | refusing frame => simp [reading] at picks
    | ended => simp [reading] at picks
  | close => exact .inr (.inr (.inl ⟨rfl, rfl⟩))
  | _ => simp [brought] at picks

/--
What a request that waits for its reply owes its end to: its own response, a fault that the reader has
met since, the closing of the table, or the failure of its own writing. Only when there have been more
requests than numbers it may have to give way to another one of its number.
-/
inductive EndsOwing (c : Connection) (events : List Event) (id : Nat) : Except Error Json → Prop where
  | response (front later : List Event) (event : Event) (split : events = front ++ event :: later)
      (request : Request) (asks : c.requestOf? id = some request) (reply : Reply)
      (own : (c.run front).response? event = some (numberAt id, reply)) :
      EndsOwing c events id (outcomeOf request reply)
  | fault (front later : List Event) (split : events = front ++ .read :: later) (reason : String)
      (met : (c.run front).brought .read = (fun _ => true, .fault reason)) :
      EndsOwing c events id (.error (.protocol reason))
  | closed (front later : List Event) (event : Event) (split : events = front ++ event :: later)
      (closes : ((c.run front).step event).table.closed = true) :
      EndsOwing c events id (.error (.connectionClosed ""))
  | unwritten (front later : List Event) (fault : IoFault)
      (split : events = front ++ .failWrite fault :: later)
      (holds : (c.run front).writer? = some (.call id)) : EndsOwing c events id (.error (.io fault))
  | displaced (many : 2 ^ 64 ≤ (c.run events).calls.length) :
      EndsOwing c events id (.error (.connectionClosed ""))

/-- A request whose writing fails is finished. -/
theorem stageOf?_failWrite (o : Orderly c) {fault : IoFault} (holds : c.writer? = some (.call id)) :
    (c.step (.failWrite fault)).stageOf? id = some (.finished (.error (.io fault))) := by
  -- The failed request is the one that holds the writer, and it is told at once.
  have writing : c.stageOf? id = some .writing := (o.writing id).mp holds
  obtain ⟨⟨writer, bytes⟩, held, same⟩ := Option.map_eq_some_iff.mp holds
  simp only at same
  subst same
  simp only [step, failWrite, held]
  show ((c.moveTo id _).replyTo _ _).stageOf? id = _
  simp [replyTo, writing]

/-- A request that waits ends owing to what comes to it, or to its own writing. -/
theorem endsOwing_of_finished (a : Accounted c) (o : Orderly c) (waits : id ∈ c.table.waiters)
    {events : List Event} {outcome : Except Error Json}
    (finished : (c.run events).stageOf? id = some (.finished outcome)) :
    c.EndsOwing events id outcome := by
  obtain ⟨stage, found, entered, unfinished⟩ := entered_of_waits a waits
  cases endsBy_of_finished o found entered unfinished finished with
  | unwritten front later fault split holds => exact .unwritten front later fault split holds
  | took front later split waiting request reply asks has =>
    -- The reply was told at some event, as the request had none when it began to wait.
    rcases told_of_slot has with before | ⟨early, event, between, rfl, still, picks, rfl⟩
    · rw [a.unanswered id waits] at before
      cases before
    · have cut : events = early ++ event :: (between ++ .finish id :: later) := by simp [split]
      -- The reply is turned into an outcome by the request that was asked for.
      have asks' : c.requestOf? id = some request := by
        obtain ⟨call, here, _⟩ := Option.map_eq_some_iff.mp found
        have own : c.requestOf? id = some call.request := by simp [requestOf?, here]
        rw [own, ← asks, requestOf?_run own]
      rcases brought_cases (a.run o early) (o.run early) still picks with own | ⟨rfl, reason, met⟩ |
        ⟨released, closes⟩ | ⟨fault, rfl, holds⟩ | ⟨released, other, differs, known, same⟩
      · exact .response early _ event cut request asks' _ own
      · rw [met]
        exact .fault early _ cut reason met
      · rw [released]
        exact .closed early _ event cut closes
      · -- Its writing had failed, so that it could not wait for a reply any more.
        have ended := finished_run ((o.run early).step (.failWrite fault))
          (stageOf?_failWrite (o.run early) holds) between
        rw [run_append] at waiting
        cases Option.some.inj (ended.symm.trans waiting)
      · -- Two requests have one number only after very many of them.
        rw [released]
        refine .displaced ?_
        by_contra few
        rw [not_le] at few
        have grows : (c.run early).calls.length ≤ (c.run events).calls.length := by
          rw [cut, run_append]
          exact length_le_run _ _
        have own : id < (c.run early).calls.length := (a.run o early).known still
        exact differs (numberAt_inj (by omega) (by omega) same)

/-- What enters behind a run and ends later owes its end to what happens after it has entered. -/
theorem endsOwing_of_enters (a : Accounted c) (o : Orderly c) {front later : List Event}
    {entering : Event} {outcome : Except Error Json} (enters : (c.run front).Enters entering id)
    (finished : (c.run (front ++ entering :: later)).stageOf? id = some (.finished outcome)) :
    (c.run (front ++ [entering])).EndsOwing later id outcome := by
  -- From its entering on it is one of those who wait.
  have whole : c.run (front ++ entering :: later) = (c.run (front ++ [entering])).run later := by
    rw [← run_append, List.append_assoc, List.singleton_append]
  rw [whole] at finished
  refine endsOwing_of_finished (a.run o _) (o.run _) ?_ finished
  rw [run_concat, mem_waiters_step]
  exact .inr enters

/-- Behind a closed table nobody waits, whatever happens. -/
theorem table_run_of_closed (a : Accounted c) (o : Orderly c) (closed : c.table.closed = true)
    (events : List Event) : (c.run events).table = ⟨true, []⟩ := by
  -- The table stays closed, and a closed one is empty.
  have still : (c.run events).table.closed = true := closed_run closed events
  have empty : (c.run events).table.waiters = [] := (a.run o events).closed_empty still
  calc (c.run events).table = ⟨(c.run events).table.closed, (c.run events).table.waiters⟩ := rfl
    _ = ⟨true, []⟩ := by rw [still, empty]

section Reading

variable (reading : c.reader = .reading)

include reading

/-- A message for nobody that carries an error is brought to all, and the reader goes on. -/
theorem step_read_rejection {payload rest : List UInt8} {m : Message}
    (frame : readFrame c.inboundEnded c.inbound = .frame payload rest)
    (parsed : Message.ofPayload payload = .ok m) (isNull : m.id = some .null)
    (noMethod : m.method = none) :
    c.brought .read = (fun _ => true, .fault (rejection m.error)) ∧
      c.step .read = { c with inbound := rest }.replyToAll (.fault (rejection m.error)) := by
  constructor
  · simp only [brought, reading, frame, parsed, broughtBy, isNull, noMethod]
  · simp only [step, read, reading, frame, takePayload, parsed, takeMessage, isNull, noMethod]

/-- A malformed header is brought to all, and the reader ends. -/
theorem step_read_malformed {fault : FrameFault}
    (frame : readFrame c.inboundEnded c.inbound = .faulty fault) (malformed : fault.isMalformed = true) :
    c.brought .read = (fun _ => true, .fault s!"malformed frame from compiler: {fault.message}") ∧
      c.step .read =
        (c.replyToAll (.fault s!"malformed frame from compiler: {fault.message}")).endReading := by
  constructor
  · simp only [brought, reading, frame, malformed, if_true]
  · simp only [step, read, reading, frame, malformed, if_true]

/-- At the end of the bytes and at every other fault all are released, and the reader ends. -/
theorem step_read_ended (ends : readFrame c.inboundEnded c.inbound = .ended ∨
      ∃ fault, readFrame c.inboundEnded c.inbound = .faulty fault ∧ fault.isMalformed = false) :
    c.brought .read = (fun _ => true, .released) ∧ c.step .read = c.endReading := by
  rcases ends with frame | ⟨fault, frame, cut⟩
  · constructor
    · simp only [brought, reading, frame]
    · simp only [step, read, reading, frame]
  · constructor
    · simp only [brought, reading, frame, cut, Bool.false_eq_true, if_false]
    · simp only [step, read, reading, frame, cut, Bool.false_eq_true, if_false]

end Reading

/--
Faults hit exactly the requests that wait. While the reader reads, a null id without a method and a
malformed header each give all who wait the same reason, and nothing to anybody else. Behind a null id
the table is open, and a request that enters it later owes its end to its own response, to a later
fault, to the closing or to its own writing. Behind a malformed header, an end of the stream and any
other failure the table is closed for good, and in the latter two cases all who wait are released.
-/
theorem faults_hit_waiters (capacity : Nat) (events : List Event)
    (reading : ((start capacity).run events).reader = .reading) :
    let c := (start capacity).run events
    (∀ payload rest m, readFrame c.inboundEnded c.inbound = .frame payload rest →
      Message.ofPayload payload = .ok m → m.id = some .null → m.method = none →
        c.Strikes .read (.fault (rejection m.error)) (.protocol (rejection m.error)) ∧
        (c.step .read).table = ⟨false, []⟩ ∧ (c.step .read).reader = .reading ∧
        ∀ front entering later id outcome, ((c.step .read).run front).Enters entering id →
          ((c.step .read).run (front ++ entering :: later)).stageOf? id = some (.finished outcome) →
            ((c.step .read).run (front ++ [entering])).EndsOwing later id outcome) ∧
    (∀ fault, readFrame c.inboundEnded c.inbound = .faulty fault → fault.isMalformed = true →
      c.Strikes .read (.fault s!"malformed frame from compiler: {fault.message}")
        (.protocol s!"malformed frame from compiler: {fault.message}") ∧
      ∀ more, ((c.step .read).run more).table = ⟨true, []⟩) ∧
    (readFrame c.inboundEnded c.inbound = .ended ∨
      (∃ fault, readFrame c.inboundEnded c.inbound = .faulty fault ∧ fault.isMalformed = false) →
      c.Strikes .read .released (.connectionClosed "") ∧
      ∀ more, ((c.step .read).run more).table = ⟨true, []⟩) ∧
    c.Strikes .failRead .released (.connectionClosed "") ∧
      ∀ more, ((c.step .failRead).run more).table = ⟨true, []⟩ := by
  -- Each way to fail picks every waiter; `strikes_of_brought` says what that means for them, and what
  -- is left is the table: open behind a rejection, closed behind an end of the reader.
  intro c
  have orderly : Orderly c := (Orderly.start capacity).run events
  have accounted : Accounted c := (Accounted.start capacity).run (.start capacity) events
  have isOpen : c.table.closed = false := open_of_reading reading
  have reading : c.reader = .reading := reading
  have reads : ∀ id, Event.read ≠ .register id := fun id same => by cases same
  have stays {event : Event} (closes : (c.step event).table.closed = true) (more : List Event) :
      ((c.step event).run more).table = ⟨true, []⟩ :=
    table_run_of_closed (accounted.step orderly event) (orderly.step event) closes more
  refine ⟨fun payload rest m frame parsed isNull noMethod => ?_, fun fault frame malformed => ?_,
    fun ends => ?_, ?_⟩
  · -- A rejection that names no request: the reader goes on, so later callers are served again.
    obtain ⟨all, read⟩ := step_read_rejection reading frame parsed isNull noMethod
    have strikes : c.Strikes .read (.fault (rejection m.error)) (.protocol (rejection m.error)) :=
      strikes_of_brought accounted orderly all reads (stageOf?_read c) fun _ => rfl
    have still : (c.step .read).table.closed = false := by rw [read]; exact isOpen
    have table : (c.step .read).table = ⟨false, []⟩ := by rw [← still, ← strikes.emptied]
    refine ⟨strikes, table, by rw [read]; exact reading, ?_⟩
    intro front entering later id outcome enters finished
    exact endsOwing_of_enters (accounted.step orderly .read) (orderly.step .read) enters finished
  · -- A malformed header: everybody is told which.
    obtain ⟨all, read⟩ := step_read_malformed reading frame malformed
    refine ⟨strikes_of_brought accounted orderly all reads (stageOf?_read c) fun _ => rfl, stays ?_⟩
    rw [read]
    rfl
  · -- A clean end and a fault of another kind let everybody go without a word.
    obtain ⟨all, read⟩ := step_read_ended reading ends
    refine ⟨strikes_of_brought accounted orderly all reads (stageOf?_read c) fun _ => rfl, stays ?_⟩
    rw [read]
    rfl
  · -- So does a read that fails.
    have all : c.brought .failRead = (fun _ => true, .released) := by simp only [brought, reading]
    refine ⟨strikes_of_brought accounted orderly all (fun id same => by cases same)
      (stageOf?_failRead c) fun _ => rfl, stays ?_⟩
    simp only [step, failRead, reading]
    rfl

/-- The payload with which the other side refuses a request that it could not read. -/
def rejectedPayload : List UInt8 :=
  Utf8.encode (Json.compact (.object [
    ("error", .object [("code", .int (-32700)), ("message", .text "Parse error")]), ("id", .null)]))

/-- A run in which one request is written and another one stands in line when the refusal arrives. -/
def rejectedRun : List Event :=
  [.issue ⟨"a", .null, .any⟩, .issue ⟨"b", .null, .any⟩, .register 0, .register 1, .queue 0, .queue 1,
    .grant, .write 4096, .arrive (writeFrame rejectedPayload)]

/-- Both requests get the reason of the refusal, and the table is open for the next ones. -/
theorem faults_hit_waiters_rejected :
    let c := (start 4096).run rejectedRun
    let reason := "compiler rejected a request: Parse error (code -32700)"
    c.reader = .reading ∧ c.table.waiters = [0, 1] ∧
      c.Strikes .read (.fault reason) (.protocol reason) ∧ (c.step .read).table = ⟨false, []⟩ := by
  -- Two callers wait for their answers when a message for nobody rejects a request.
  have reading : ((start 4096).run rejectedRun).reader = .reading := by decide +kernel
  have waiters : ((start 4096).run rejectedRun).table.waiters = [0, 1] := by decide +kernel
  have frame : readFrame ((start 4096).run rejectedRun).inboundEnded
      ((start 4096).run rejectedRun).inbound = .frame rejectedPayload [] := by decide +kernel
  have parsed : (Message.ofPayload rejectedPayload).toOption =
      some ⟨some .null, none, .null, some ⟨-32700, "Parse error", none⟩⟩ := by decide +kernel
  cases said : Message.ofPayload rejectedPayload with
  | error fault => rw [said] at parsed; cases parsed
  | ok m =>
    rw [said] at parsed
    obtain rfl := Option.some.inj parsed
    obtain ⟨strikes, table, _⟩ :=
      (faults_hit_waiters 4096 rejectedRun reading).1 rejectedPayload [] _ frame said rfl rfl
    exact ⟨reading, waiters, strikes, table⟩

end Connection

end TemplateFacts.Wire
