import TemplateFacts.Proofs.Session.Custody

/-!
Whose text a failed errand is told. An errand asks outside of the session, and comes back to it for
what the compiler printed. It is told the text of its own process as long as no other one has been
started; after a stop and another start it is told the text of a process that never heard its question.
-/

namespace TemplateFacts.Session

variable {s : Session} {process connection : Nat}

/-- A process is answered for with a connection: the session holds both, or a stop is closing them. -/
def Serves (s : Session) (process connection : Nat) : Prop :=
  s.Has process connection ∨ s.holder = some (.closing process connection)

/-- Whoever is served by a process finds the session answering for it. -/
theorem Serves.charge? (serves : s.Serves process connection) : s.charge? = some process := by
  -- The process is held, or is being closed by whoever has the lock.
  rcases serves with ⟨free, held⟩ | inside
  · simp [Session.charge?, free, held, Held.process?]
  · simp [Session.charge?, inside, Holder.process]

/-- Nobody is served while a process is waited for. -/
theorem not_serves_of_accepting {errand waited socket : Nat}
    (inside : s.holder = some (.accepting errand waited socket)) : ¬ s.Serves process connection := by
  -- One who accepts has the lock and is not closing.
  rintro (⟨free, _⟩ | closing)
  · simp [inside] at free
  · simp [inside] at closing

/-- What is kept of the processes and of what is held keeps who is served. -/
theorem Serves.congr {t : Session} (holder : t.holder = s.holder) (held : t.held = s.held)
    (serves : s.Serves process connection) : t.Serves process connection := by
  rwa [Serves, Has, holder, held]

/-- A session goes on answering for a process: nothing is started, and whoever was served is served still. -/
structure Continues (s t : Session) (process : Nat) : Prop where
  charge : s.charge? = some process
  length : t.processes.length = s.processes.length
  serves : ∀ connection, s.Serves process connection → t.Serves process connection

/-- Whatever leaves alone what is held leaves alone who is answered for. -/
theorem Continues.of_same {t : Session} (holder : t.holder = s.holder) (held : t.held = s.held)
    (length : t.processes.length = s.processes.length) (charge : t.charge? = some process) :
    s.Continues t process where
  charge := by rw [← charge, Session.charge?, Session.charge?, holder, held]
  length := length
  serves _ serves := serves.congr holder held

/-- A process that was waited for is answered for further, and nobody was served so far. -/
theorem Continues.of_accepting {t : Session} {errand waited socket : Nat}
    (inside : s.holder = some (.accepting errand waited socket)) (same : waited = process)
    (length : t.processes.length = s.processes.length) : s.Continues t process where
  charge := by simp [Session.charge?, inside, Holder.process, same]
  length := length
  serves _ serves := absurd serves (not_serves_of_accepting inside)

/-- An event starts one process at most, and forgets none. -/
theorem length_step (s : Session) (event : Event) :
    (s.step event).processes.length = s.processes.length ∨
      (s.step event).processes.length = s.processes.length + 1 := by
  have does := does_step s event
  generalize s.step event = t at does
  cases does with
  | launched errand launch =>
    -- Only a launch that succeeds starts a process.
    cases launch with
    | launched => exact .inr (by simp [Session.launch])
    | _ => exact .inl (by simp [Session.launch, moveTo])
  | _ => exact .inl (by simp [moveTo, give, unbind])

/-- Whoever is answered for after an event was so before, or is the one process that the event
started. -/
theorem charge?_step (a : s.Accountable) {event : Event}
    (charge : (s.step event).charge? = some process) :
    process = s.processes.length ∧ (s.step event).processes.length = process + 1 ∨
      s.Continues (s.step event) process := by
  have does := does_step s event
  generalize s.step event = t at does charge ⊢
  -- An event that leaves what is held with nobody in charge is ruled out by what is known of it.
  cases does with
  | nothing | came | moved | given => exact .inr (.of_same rfl rfl rfl charge)
  | launched errand launch free =>
    -- What was held has been given up, so that only a new process can be answered for.
    cases launch with
    | launched =>
      have new : s.processes.length = process := by
        simpa [Session.launch, Session.charge?, Holder.process] using charge
      exact .inl (by simp [Session.launch, new])
    | _ => simp [Session.launch, moveTo, Session.charge?, free, Held.process?] at charge
  | accepted errand waited socket inside =>
    have same : waited = process := by simpa [give, Session.charge?, Held.process?] using charge
    exact .inr (.of_accepting inside same rfl)
  | gaveUp _ errand waited socket failure inside =>
    have same : waited = process := by simpa [moveTo, Session.charge?, Held.process?] using charge
    exact .inr (.of_accepting inside same rfl)
  | cancelled errand waited socket inside =>
    -- The process that was waited for has gone with the errand.
    have empty : s.held.process? = none := a.taken (by simp [inside])
    simp [moveTo, Session.kill, unbind, Session.charge?, empty] at charge
  | stopped _ free => simp [kill, Session.charge?, free, Held.process?] at charge
  | closing closed connection free held =>
    -- A stop that waits serves the same process by the same connection.
    have same : closed = process := by simpa [Session.charge?, Holder.process] using charge
    subst same
    refine .inr ⟨by simp [Session.charge?, free, held, Held.process?], rfl, ?_⟩
    rintro other (⟨_, serving⟩ | inside)
    · obtain ⟨_, rfl⟩ := Held.connected.inj (held.symm.trans serving)
      exact .inr rfl
    · simp [free] at inside
  | closed _ connection inside =>
    have empty : s.held.process? = none := a.taken (by simp [inside])
    simp [kill, Session.charge?, empty] at charge
  | captured => exact .inr (.of_same rfl rfl (List.length_modify ..) charge)
  | dropped free => simp [Session.charge?, free, Held.process?] at charge

/-- The process that a session answers for is the last one that was started, and an errand that got
that one is served by it. -/
structure Latest (s : Session) : Prop where
  charge : ∀ process, s.charge? = some process → process + 1 = s.processes.length
  used : ∀ errand process connection, s.usedOf? errand = some (process, connection) →
    process < s.processes.length ∧ (s.charge? = some process → s.Serves process connection)

namespace Latest

/-- Nothing was started when a session begins. -/
theorem start (patience : Nat) : (start patience).Latest where
  charge process charge := by simp [Session.start, Session.charge?, Held.process?] at charge
  used errand process connection used := by simp [Session.start, usedOf?] at used

/-- An event leaves the session with the last process. -/
theorem step (l : s.Latest) (a : s.Accountable) (event : Event) : (s.step event).Latest := by
  have charge (process : Nat) (charge : (s.step event).charge? = some process) :
      process + 1 = (s.step event).processes.length := by
    rcases charge?_step a charge with ⟨_, length⟩ | continues
    · exact length.symm
    · rw [continues.length]
      exact l.charge process continues.charge
  refine ⟨charge, fun errand process connection used => ?_⟩
  rcases usedOf?_step s event errand with same | ⟨process', connection', given, has⟩
  · -- What an errand got before is older than a process that was started just now.
    obtain ⟨started, serves⟩ := l.used errand process connection (same.symm.trans used)
    refine ⟨?_, fun charge => ?_⟩
    · rcases length_step s event with length | length <;> omega
    · rcases charge?_step a charge with ⟨new, _⟩ | continues
      · omega
      · exact continues.serves connection (serves continues.charge)
  · -- What an errand gets now is what the session has, and that is the last process.
    obtain ⟨rfl, rfl⟩ := Prod.mk.inj (Option.some.inj (given.symm.trans used))
    have serves : (s.step event).Serves process' connection' := .inl has
    have last := charge process' serves.charge?
    exact ⟨by omega, fun _ => serves⟩

/-- A whole run leaves the session with the last process. -/
theorem run (l : s.Latest) (a : s.Accountable) (events : List Event) : (s.run events).Latest := by
  -- The events are taken one by one.
  induction events generalizing s with
  | nil => exact l
  | cons event events ih => exact ih (l.step a event) (a.step event)

end Latest

/-- What a process printed and was captured so far; nothing, if there is none of that number. -/
def printedOf (s : Session) (process : Nat) : String :=
  (s.processes[process]?.map Process.printed).getD ""

/-- Who comes back when nobody is inside is told what the session knows by then. -/
theorem stageOf?_diagnose (free : s.holder = none) {errand : Nat} {failure : Error}
    (failed : s.stageOf? errand = some (.diagnosing failure)) :
    (s.step (.diagnose errand)).stageOf? errand =
      some (.finished (.error (withDiagnostics s.diagnostics failure))) := by
  -- With the lock free, the errand goes on with what was captured last.
  obtain ⟨e, found, _⟩ := Option.map_eq_some_iff.mp failed
  have told : s.step (.diagnose errand) =
      s.moveTo errand (.finished (.error (withDiagnostics s.diagnostics failure))) := by
    simp only [step, diagnose, free, failed]
  simp [told, stageOf?, moveTo, found]

/--
Whose text a failed errand is told. In every state that a run can reach, whoever comes back after a
question that failed is told what the session knows by then. That is the text of the very process
that was asked, which the session holds with the very connection that was used; or nothing, when no
process is held; or the text of the last process of all, when that was started after the one that
was asked. And from the moment at which an errand got its connection until the next stop, it is one
of the first two.
-/
theorem told_own_none_or_later (patience : Nat) (events : List Event) :
    let s := (start patience).run events
    (∀ errand process connection failure, s.holder = none →
      s.usedOf? errand = some (process, connection) →
      s.stageOf? errand = some (.diagnosing failure) →
      (s.step (.diagnose errand)).stageOf? errand =
        some (.finished (.error (withDiagnostics s.diagnostics failure))) ∧
      (s.held = .connected process connection ∧ s.diagnostics = s.printedOf process ∨
        s.held.process? = none ∧ s.diagnostics = "" ∨
        ∃ later, process < later ∧ later + 1 = s.processes.length ∧
          s.held.process? = some later ∧ s.diagnostics = s.printedOf later)) ∧
    (∀ event errand process connection, s.usedOf? errand ≠ some (process, connection) →
      (s.step event).usedOf? errand = some (process, connection) →
      ∀ more, .stop ∉ more →
        let t := (s.step event).run more
        t.held = .connected process connection ∧ t.diagnostics = t.printedOf process ∨
          t.held.process? = none ∧ t.diagnostics = "") := by
  intro s
  have latest : s.Latest := (Latest.start patience).run (.start patience) events
  refine ⟨fun errand process connection failure free used failed =>
    ⟨stageOf?_diagnose free failed, ?_⟩, fun event errand process connection fresh gets more runs => ?_⟩
  · cases held : s.held.process? with
    | none => exact .inr (.inl ⟨rfl, by rw [diagnostics, held]⟩)
    | some told =>
      -- The process that is held is the last one, and so it is the one that was asked or a later one.
      have charge : s.charge? = some told := by rw [charge?, free, held]
      have last := latest.charge told charge
      obtain ⟨started, serves⟩ := latest.used errand process connection used
      have text : s.diagnostics = s.printedOf told := by rw [diagnostics, held, printedOf]
      by_cases same : told = process
      · subst same
        have has : s.Has told connection := (serves charge).resolve_right (by simp [free])
        exact .inl ⟨has.2, text⟩
      · exact .inr (.inr ⟨told, by omega, last, rfl, text⟩)
  · -- Whoever has just got a connection leaves a session that has it.
    have has : (s.step event).Has process connection := by
      rcases usedOf?_step s event errand with same | ⟨process', connection', given, has⟩
      · exact absurd (same.symm.trans gets) fresh
      · obtain ⟨rfl, rfl⟩ := Prod.mk.inj (Option.some.inj (gets.symm.trans given))
        exact has
    intro t
    rcases (Settled.run (.inl has) runs).settled with kept | ⟨_, dropped⟩
    · exact .inl ⟨kept.2, by simp [t, diagnostics, kept.2, Held.process?, printedOf]⟩
    · exact .inr ⟨by simp [t, dropped, Held.process?], by simp [t, diagnostics, dropped, Held.process?]⟩

/-- A stop and another start between a failure and the way back make an errand be told the text of a
process that it never used, in place of what its own process printed. -/
theorem told_text_of_later :
    let failed := (start 10).run [.come true, .enter 0 .launched, .accept, .capture 0 [97],
      .answer 0 (.error (.connectionClosed ""))]
    let restarted := failed.run [.stop, .close, .come true, .enter 1 .launched, .accept,
      .capture 1 [98]]
    failed.usedOf? 0 = some (0, 0) ∧ restarted.usedOf? 0 = some (0, 0) ∧
      restarted.printedOf 0 = "a" ∧
      (failed.step (.diagnose 0)).stageOf? 0 = some (.finished (.error (.connectionClosed "a"))) ∧
      (restarted.step (.diagnose 0)).stageOf? 0 =
        some (.finished (.error (.connectionClosed "b"))) := by
  -- The lock is free between the failure and the question, so that a stop and a start fit in between.
  decide

end TemplateFacts.Session
