import TemplateFacts.Session.Basic

/-!
What a session answers for: of all processes that it ever started, the one that it holds is the
only one that was not asked to die, a stop leaves none, and no file of a socket is left behind.
-/

namespace TemplateFacts.Session

/-- A process was started, and was not asked to die. -/
def Alive (s : Session) (process : Nat) : Prop :=
  ∃ p, s.processes[process]? = some p ∧ p.killRequested = false

/-- A process was started, and was asked to die. -/
def Asked (s : Session) (process : Nat) : Prop :=
  ∃ p, s.processes[process]? = some p ∧ p.killRequested = true

/-- The process and the connection that an errand got, if it got any. -/
def usedOf? (s : Session) (errand : Nat) : Option (Nat × Nat) := s.errands[errand]?.bind Errand.used

/-- The process that an operation has taken from the session while it waits. -/
def Holder.process : Holder → Nat
  | .accepting _ process _ => process
  | .closing process _ => process

/-- The socket that an operation waits at. -/
def Holder.socket? : Holder → Option Nat
  -- Who waits for a connection to close is at no socket.
  | .accepting _ _ socket => some socket
  | .closing .. => none

/-- The process that the session answers for, or the operation inside it does. -/
def charge? (s : Session) : Option Nat :=
  -- An operation inside has taken the process over.
  match s.holder with
  | some holder => some holder.process
  | none => s.held.process?

/-- A stop of the session ends with an event, whatever became of the connection. -/
def StopReturns (s : Session) : Event → Prop
  -- Only a connection is worth waiting for.
  | .stop => s.holder = none ∧ ∀ process connection, s.held ≠ .connected process connection
  | .close => ∃ process connection, s.holder = some (.closing process connection)
  | _ => False

/-- What an event does to a session, with all that it takes for it. -/
inductive Does (s : Session) : Event → Session → Prop
  | nothing (event : Event) : Does s event s
  | came (asks : Bool) :
    Does s (.come asks) { s with errands := s.errands ++ [⟨asks, none, .waiting⟩] }
  /-- An errand goes on outside of the session, or is given up there. -/
  | moved (event : Event) (errand : Nat) (stage : Stage) : Does s event (s.moveTo errand stage)
  | given (errand : Nat) (launch : Launch) (process connection : Nat) (free : s.holder = none)
    (held : s.held = .connected process connection) :
    Does s (.enter errand launch) (s.give errand process connection)
  /-- What is held has no connection, and is given up for a new process. -/
  | launched (errand : Nat) (launch : Launch) (free : s.holder = none) (lives : s.held ≠ .dropped)
    (unconnected : ∀ process connection, s.held ≠ .connected process connection) :
    Does s (.enter errand launch) ({ s.killHeld with held := .unstarted }.launch errand launch)
  | accepted (errand process socket : Nat)
    (inside : s.holder = some (.accepting errand process socket)) :
    Does s .accept (({ s.unbind socket with
      connections := s.connections + 1
      held := .connected process s.connections
      holder := none }).give errand process s.connections)
  | gaveUp (event : Event) (errand process socket : Nat) (failure : Error)
    (inside : s.holder = some (.accepting errand process socket)) :
    Does s event (({ s.unbind socket with held := .starting process, holder := none }).moveTo errand
      (.finished (.error failure)))
  | cancelled (errand process socket : Nat)
    (inside : s.holder = some (.accepting errand process socket)) :
    Does s (.cancel errand)
      (({ s.unbind socket with holder := none }.kill process).moveTo errand .abandoned)
  | stopped (process : Nat) (free : s.holder = none) (held : s.held = .starting process) :
    Does s .stop { s.kill process with held := .stopped }
  /-- A stop waits for the connection to close. -/
  | closing (process connection : Nat) (free : s.holder = none)
    (held : s.held = .connected process connection) :
    Does s .stop { s with held := .stopped, holder := some (.closing process connection) }
  | closed (process connection : Nat) (inside : s.holder = some (.closing process connection)) :
    Does s .close { s.kill process with holder := none }
  | captured (process : Nat) (chunk : List UInt8) :
    Does s (.capture process chunk)
      { s with processes := s.processes.modify process fun p => p.capture chunk }
  | dropped (free : s.holder = none) : Does s .drop { s.killHeld with held := .dropped }

/-- Waiting for a process ends for whoever waits for it. -/
theorem does_giveUpAccept (s : Session) (event : Event) (failure : (process : Nat) → Error) :
    s.Does event (s.giveUpAccept failure) := by
  -- With nobody accepting there is nothing to give up.
  unfold giveUpAccept
  split
  · rename_i errand process socket inside
    exact .gaveUp event errand process socket (failure process) inside
  · exact .nothing event

/-- Every event does one of these things. -/
theorem does_step (s : Session) (event : Event) : s.Does event (s.step event) := by
  cases event with
  | come asks => exact .came asks
  | enter errand launch =>
    simp only [step, enter]
    split
    · rename_i enters
      simp only [Bool.and_eq_true, decide_eq_true_eq] at enters
      obtain ⟨⟨free, _⟩, lives⟩ := enters
      -- A connection that is held is given out again, and otherwise a process is launched.
      split
      · rename_i process connection held
        exact .given errand launch process connection free held
      · rename_i unconnected
        exact .launched errand launch free lives unconnected
    · exact .nothing _
  | accept =>
    simp only [step, accept]
    split
    · rename_i errand process socket inside
      exact .accepted errand process socket inside
    · exact .nothing _
  | failAccept fault => exact does_giveUpAccept s _ _
  | expire => exact does_giveUpAccept s _ _
  | cancel errand =>
    simp only [step, cancel]
    split
    · rename_i waiting process socket inside _
      -- Who waits for the connection takes the process along, and anybody else just leaves.
      split
      · rename_i same
        subst same
        exact .cancelled waiting process socket inside
      · exact .moved _ _ _
    · exact .nothing _
    · exact .nothing _
    · exact .moved _ _ _
  | answer errand outcome =>
    simp only [step, answer]
    split
    · split <;> exact .moved _ _ _
    · exact .nothing _
  | diagnose errand =>
    simp only [step, diagnose]
    split
    · exact .moved _ _ _
    · exact .nothing _
  | stop =>
    simp only [step, stop]
    -- Without a connection the process is killed, and with one it is asked to leave first.
    split
    · rename_i process free held
      exact .stopped process free held
    · rename_i process connection free held
      exact .closing process connection free held
    · exact .nothing _
  | close =>
    simp only [step, close]
    split
    · rename_i process connection inside
      exact .closed process connection inside
    · exact .nothing _
  | capture process chunk => exact .captured process chunk
  | drop =>
    simp only [step, drop]
    split
    · rename_i free
      exact .dropped free
    · exact .nothing _

section Views

variable {s : Session} {process : Nat}

/-- Somebody was asked to die or is alive, as soon as there is a process of that number. -/
theorem asked_or_alive (started : process < s.processes.length) :
    s.Asked process ∨ s.Alive process := by
  -- A process that was started has been asked to end or not.
  have found := List.getElem?_eq_getElem started
  cases asked : s.processes[process].killRequested with
  | true => exact .inl ⟨_, found, asked⟩
  | false => exact .inr ⟨_, found, asked⟩

/-- Asking a process to die ends the life of that process alone. -/
theorem alive_kill (killed : Nat) :
    (s.kill killed).Alive process ↔ s.Alive process ∧ process ≠ killed := by
  simp only [Alive, kill, List.getElem?_modify]
  by_cases same : killed = process
  · -- Whoever was found there has now been asked.
    subst same
    cases s.processes[killed]? <;> simp
  · cases s.processes[process]? <;> simp [same, Ne.symm same]

/-- Asking the held process to die ends its life alone. -/
theorem alive_killHeld :
    s.killHeld.Alive process ↔ s.Alive process ∧ s.held.process? ≠ some process := by
  -- Only the held process is asked, when there is one.
  unfold killHeld
  split
  · rename_i held found
    rw [alive_kill, found]
    simp [eq_comm]
  · rename_i found
    simp [found]

/-- Asking is remembered. -/
theorem Asked.kill (asked : s.Asked process) (killed : Nat) : (s.kill killed).Asked process := by
  -- Asking is never taken back.
  obtain ⟨p, found, dead⟩ := asked
  simp only [Asked, Session.kill, List.getElem?_modify, found]
  by_cases same : killed = process <;> simp [same, dead]

/-- Asking the held process to die is remembered of the others. -/
theorem Asked.killHeld (asked : s.Asked process) : s.killHeld.Asked process := by
  -- Asking is never taken back.
  unfold Session.killHeld
  split
  · exact asked.kill _
  · exact asked

/-- What a process prints does not keep it alive, nor does it end its life. -/
theorem getElem?_capture (captured : Nat) (chunk : List UInt8) :
    ((s.step (.capture captured chunk)).processes[process]?).map Process.killRequested =
      (s.processes[process]?).map Process.killRequested := by
  -- A chunk is written down beside the mark, which it leaves alone.
  simp only [step, List.getElem?_modify]
  by_cases same : captured = process
  · subst same
    cases s.processes[captured]? <;> simp [Process.capture]
  · cases s.processes[process]? <;> simp [same]

@[simp] theorem length_kill (killed : Nat) : (s.kill killed).processes.length = s.processes.length := by
  simp [kill]

@[simp] theorem length_killHeld : s.killHeld.processes.length = s.processes.length := by
  unfold killHeld
  split <;> simp

@[simp] theorem errands_killHeld : s.killHeld.errands = s.errands := by
  unfold killHeld
  split <;> rfl

@[simp] theorem sockets_killHeld : s.killHeld.sockets = s.sockets := by
  unfold killHeld
  split <;> rfl

@[simp] theorem connections_killHeld : s.killHeld.connections = s.connections := by
  unfold killHeld
  split <;> rfl

@[simp] theorem holder_killHeld : s.killHeld.holder = s.holder := by
  unfold killHeld
  split <;> rfl

/-- How far an errand has come says nothing about what it got. -/
@[simp] theorem usedOf?_moveTo (errand other : Nat) (stage : Stage) :
    (s.moveTo errand stage).usedOf? other = s.usedOf? other := by
  simp only [usedOf?, moveTo, List.getElem?_modify]
  by_cases same : errand = other <;> cases s.errands[other]? <;> simp [same]

/-- Only the errand that is given a connection has it. -/
theorem usedOf?_give (errand other process connection : Nat) :
    (s.give errand process connection).usedOf? other =
      if errand = other ∧ other < s.errands.length then some (process, connection)
      else s.usedOf? other := by
  simp only [usedOf?, give, List.getElem?_modify]
  by_cases same : errand = other
  · -- An errand that never came gets nothing, although it is meant.
    cases found : s.errands[other]? with
    | none => simp [same, List.getElem?_eq_none_iff.mp found]
    | some e =>
      have within : other < s.errands.length := (List.getElem?_eq_some_iff.mp found).1
      simp [same, within]
  · cases s.errands[other]? <;> simp [same]

end Views

/-- The session answers for everything that it started. -/
structure Accountable (s : Session) : Prop where
  /-- One process is alive if the session answers for one, and it is that one. -/
  alive : ∀ process, s.Alive process ↔ s.charge? = some process
  /-- The only file of a socket is that of the socket that is waited at. -/
  sockets : s.sockets = (s.holder.bind Holder.socket?).toList
  /-- Nothing is held while an operation is inside. -/
  taken : s.holder ≠ none → s.held.process? = none

namespace Accountable

variable {s : Session}

/-- A session that just began has nothing to answer for. -/
theorem start (patience : Nat) : (start patience).Accountable where
  alive process := by simp [Alive, Session.start, charge?, Held.process?]
  sockets := rfl
  taken absent := absurd rfl absent

/-- Whatever leaves alone the processes and all that is held leaves the account alone. -/
theorem congr {t : Session} (a : s.Accountable)
    (processes : ∀ process : Nat, (t.processes[process]?).map Process.killRequested =
      (s.processes[process]?).map Process.killRequested)
    (sockets : t.sockets = s.sockets) (holder : t.holder = s.holder) (held : t.held = s.held) :
    t.Accountable where
  alive process := by
    -- Whether a process is alive depends on who was asked to die only.
    have same : t.Alive process ↔ s.Alive process := by
      have equal := processes process
      simp only [Alive]
      cases before : s.processes[process]? <;> cases after : t.processes[process]? <;> simp_all
    rw [same, a.alive, charge?, charge?, holder, held]
  sockets := by rw [sockets, holder, a.sockets]
  taken inside := by
    rw [holder] at inside
    rw [held]
    exact a.taken inside

theorem moveTo (a : s.Accountable) (errand : Nat) (stage : Stage) :
    (s.moveTo errand stage).Accountable := a.congr (fun _ => rfl) rfl rfl rfl

theorem give (a : s.Accountable) (errand process connection : Nat) :
    (s.give errand process connection).Accountable := a.congr (fun _ => rfl) rfl rfl rfl

/-- When nobody is inside, what is held is all that lives, and no file of a socket is there. -/
theorem outside (a : s.Accountable) (free : s.holder = none) :
    (∀ process, s.Alive process ↔ s.held.process? = some process) ∧ s.sockets = [] := by
  -- Outside the lock nobody holds a process or a socket but the session itself.
  refine ⟨fun process => ?_, ?_⟩
  · rw [a.alive, charge?, free]
  · rw [a.sockets, free]
    rfl

/-- Once the process that is answered for has been asked to die, nothing is alive. -/
theorem not_alive_kill (a : s.Accountable) {process : Nat} (charge : s.charge? = some process)
    (other : Nat) : ¬ (s.kill process).Alive other := by
  -- The only live process is the one in charge.
  rw [alive_kill, a.alive, charge]
  rintro ⟨same, different⟩
  exact different (Option.some.inj same).symm

/-- Without its process, the session answers for nothing. -/
theorem killHeld (a : s.Accountable) (free : s.holder = none) {held : Held}
    (empty : held.process? = none) : ({ s.killHeld with held := held } : Session).Accountable where
  alive process := by
    -- What was alive was held, and what was held has been asked to die.
    have dead : ¬ s.killHeld.Alive process := by
      rw [alive_killHeld, (a.outside free).1]
      exact fun both => both.2 both.1
    have none : ({ s.killHeld with held := held } : Session).charge? = .none := by
      simp [charge?, free, empty]
    rw [none]
    exact iff_of_false dead (by simp)
  sockets := by
    show s.killHeld.sockets = _
    simp [(a.outside free).2, free]
  taken _ := empty

/-- A launch ends with a process that is waited for, or with nothing. -/
theorem launch (a : s.Accountable) (free : s.holder = none) (empty : s.held.process? = none)
    (errand : Nat) (launch : Launch) : (s.launch errand launch).Accountable := by
  cases launch with
  -- No process was started.
  | unbound e => exact a.moveTo errand _
  | unspawned e => exact (a.congr (fun _ => rfl) rfl rfl rfl :
      ({ s with bound := s.bound + 1 } : Session).Accountable).moveTo errand _
  | launched =>
    obtain ⟨alive, none⟩ := a.outside free
    refine ⟨fun process => ?_, by simp [Session.launch, none, Holder.socket?], fun _ => empty⟩
    -- All that was started before is dead, and the new process is the last one.
    have dead : ¬ s.Alive process := by rw [alive, empty]; simp
    have fresh : (s.launch errand .launched).Alive process ↔ s.processes.length = process := by
      simp only [Alive, Session.launch, List.getElem?_append]
      -- Of the processes there are the last one alone is alive.
      constructor
      · rintro ⟨p, found, living⟩
        split at found
        · exact absurd ⟨p, found, living⟩ dead
        · have last := (List.getElem?_eq_some_iff.mp found).1
          simp only [List.length_singleton] at last
          omega
      · rintro rfl
        exact ⟨.fresh, by simp, rfl⟩
    rw [fresh]
    simp [charge?, Session.launch, Holder.process]

/-- A process that is waited for becomes one that is held, and its socket is gone. -/
theorem settle (a : s.Accountable) {errand process socket : Nat}
    (inside : s.holder = some (.accepting errand process socket)) {held : Held}
    (kept : held.process? = some process) {connections : Nat} :
    ({ s.unbind socket with connections := connections, held := held, holder := none } :
      Session).Accountable where
  alive other := by
    -- The operation inside has answered for the process, and the session does now.
    have charge : s.charge? = some process := by simp [charge?, inside, Holder.process]
    show s.Alive other ↔ _
    rw [a.alive, charge]
    simp [charge?, kept]
  sockets := by
    show (s.unbind socket).sockets = _
    rw [unbind, a.sockets, inside]
    simp [Holder.socket?]
  taken inside := absurd rfl inside

/-- A process dies with the errand that waited for it, and its socket goes. -/
theorem cancelled (a : s.Accountable) {errand process socket : Nat}
    (inside : s.holder = some (.accepting errand process socket)) :
    ({ s.unbind socket with holder := none }.kill process).Accountable where
  alive other := by
    -- The process that was waited for is ended with the socket, and nothing else was held.
    have charge : s.charge? = some process := by simp [charge?, inside, Holder.process]
    have dead : ¬ (({ s.unbind socket with holder := none } : Session).kill process).Alive other :=
      a.not_alive_kill charge other
    have held : s.held.process? = none := a.taken (by simp [inside])
    refine iff_of_false dead ?_
    simp [charge?, Session.kill, unbind, held]
  sockets := by
    show (s.unbind socket).sockets = _
    rw [unbind, a.sockets, inside]
    simp [Holder.socket?, Session.kill]
  taken inside := absurd rfl inside

/-- A stop that waits answers for the process that the session has held. -/
theorem closing (a : s.Accountable) {process connection : Nat} (free : s.holder = none)
    (held : s.held = .connected process connection) :
    ({ s with held := .stopped, holder := some (.closing process connection) } :
      Session).Accountable where
  alive other := by
    -- The process passes from the session to the one who closes it.
    show s.Alive other ↔ _
    rw [(a.outside free).1, held]
    simp [charge?, Held.process?, Holder.process]
  sockets := by simpa [Holder.socket?] using (a.outside free).2
  taken _ := rfl

/-- A stop that no longer waits has asked the process to die. -/
theorem closed (a : s.Accountable) {process connection : Nat}
    (inside : s.holder = some (.closing process connection)) :
    ({ s.kill process with holder := none } : Session).Accountable where
  alive other := by
    -- The process that was closed is ended, and the session holds none.
    have charge : s.charge? = some process := by simp [charge?, inside, Holder.process]
    have dead : ¬ (s.kill process).Alive other := a.not_alive_kill charge other
    have none : ({ s.kill process with holder := .none } : Session).charge? = .none :=
      a.taken (by simp [inside])
    rw [none]
    exact iff_of_false dead (by simp)
  sockets := by
    show s.sockets = _
    rw [a.sockets, inside]
    rfl
  taken inside := absurd rfl inside

/-- The session answers for everything after an event. -/
theorem step (a : s.Accountable) (event : Event) : (s.step event).Accountable := by
  have does := does_step s event
  generalize s.step event = t at does
  cases does with
  | nothing => exact a
  | came => exact a.congr (fun _ => rfl) rfl rfl rfl
  | moved => exact a.moveTo ..
  | given => exact a.give ..
  | launched errand launch free =>
    -- What is held is given up before anything is launched.
    exact (a.killHeld free rfl).launch (by simpa using free) rfl errand launch
  | accepted errand process socket inside => exact (a.settle inside rfl).give ..
  | gaveUp event errand process socket failure inside => exact (a.settle inside rfl).moveTo ..
  | cancelled errand process socket inside => exact (a.cancelled inside).moveTo ..
  | stopped process free held =>
    have alone : ({ s.killHeld with held := .stopped } : Session).Accountable := a.killHeld free rfl
    simpa [Session.killHeld, held, Held.process?] using alone
  -- The holder gives the process up, and nobody holds another one.
  | closing process connection free held => exact a.closing free held
  | closed process connection inside => exact a.closed inside
  | captured process chunk => exact a.congr (fun _ => getElem?_capture process chunk) rfl rfl rfl
  | dropped free => exact a.killHeld free rfl

/-- The session answers for everything in every run. -/
theorem run (a : s.Accountable) (events : List Event) : (s.run events).Accountable := by
  -- The events are taken one by one.
  induction events generalizing s with
  | nil => exact a
  | cons event events ih => exact ih (a.step event)

end Accountable

/-- Whoever was asked to die was asked for good. -/
theorem Asked.step {s : Session} {process : Nat} (asked : s.Asked process) (event : Event) :
    (s.step event).Asked process := by
  have does := does_step s event
  generalize s.step event = t at does
  -- Processes are added at the end, and nobody takes a request to die back.
  cases does with
  | launched errand launch =>
    -- A launch kills what is held, and adds a process behind all others.
    obtain ⟨p, found, dead⟩ := asked.killHeld
    cases launch with
    | launched =>
      refine ⟨p, ?_, dead⟩
      have within := (List.getElem?_eq_some_iff.mp found).1
      simpa [Session.launch, List.getElem?_append_left within] using found
    | _ => exact ⟨p, found, dead⟩
  | cancelled | stopped | closed => exact (asked.kill _ : _)
  | captured captured chunk =>
    obtain ⟨p, found, dead⟩ := asked
    have same := (getElem?_capture captured chunk).trans
      (congrArg (Option.map Process.killRequested) found)
    obtain ⟨q, after, equal⟩ := Option.map_eq_some_iff.mp same
    exact ⟨q, after, equal.trans dead⟩
  | dropped => exact (asked.killHeld : _)
  | _ => exact asked

/-- Whoever was asked to die was asked for the whole run. -/
theorem Asked.run {s : Session} {process : Nat} (asked : s.Asked process) (events : List Event) :
    (s.run events).Asked process := by
  -- The events are taken one by one.
  induction events generalizing s with
  | nil => exact asked
  | cons event events ih => exact ih (asked.step event)

/-- When a stop returns, nothing is alive. -/
theorem not_alive_of_stopReturns {s : Session} (a : s.Accountable) {event : Event}
    (returns : s.StopReturns event) (process : Nat) : ¬ (s.step event).Alive process := by
  have after := a.step event
  cases event with
  | stop =>
    obtain ⟨free, unconnected⟩ := returns
    -- There was no connection to wait for, so that nothing is held at once.
    have nothing : (s.step .stop).holder = none ∧ (s.step .stop).held.process? = none := by
      simp only [step, stop, free]
      cases held : s.held with
      | connected process connection => exact absurd held (unconnected process connection)
      | starting process => exact ⟨free, rfl⟩
      | _ => simp [held, free, Held.process?]
    rw [(after.outside nothing.1).1, nothing.2]
    simp
  | close =>
    obtain ⟨closed, connection, inside⟩ := returns
    -- The stop was inside, and has taken what was held when it came.
    have nothing : (s.step .close).holder = none ∧ (s.step .close).held.process? = none := by
      rw [step, close, inside]
      exact ⟨rfl, a.taken (by simp [inside])⟩
    rw [(after.outside nothing.1).1, nothing.2]
    simp
  | _ => exact returns.elim

/-- An event starts no process when a stop returns. -/
theorem length_of_stopReturns {s : Session} {event : Event} (returns : s.StopReturns event) :
    (s.step event).processes.length = s.processes.length := by
  -- Neither a stop nor a close starts a process.
  cases event with
  | stop =>
    simp only [step, stop]
    split <;> simp
  | close =>
    simp only [step, close]
    split <;> simp
  | _ => exact returns.elim

/-- Starting a process gives nobody a connection yet. -/
theorem usedOf?_launch (s : Session) (errand other : Nat) (launch : Launch) :
    (s.launch errand launch).usedOf? other = s.usedOf? other := by
  -- A launch moves its own errand on and hands out no connection.
  cases launch with
  | unbound e => exact usedOf?_moveTo errand other _
  | unspawned e => exact usedOf?_moveTo errand other _
  | launched => rfl

/-- Nobody is inside the session, which has a connection. -/
def Has (s : Session) (process connection : Nat) : Prop :=
  s.holder = none ∧ s.held = .connected process connection

/-- An event leaves an errand with what it got before, or with what the session has then. -/
theorem usedOf?_step (s : Session) (event : Event) (errand : Nat) :
    (s.step event).usedOf? errand = s.usedOf? errand ∨
      ∃ process connection, (s.step event).usedOf? errand = some (process, connection) ∧
        (s.step event).Has process connection := by
  have does := does_step s event
  generalize s.step event = t at does
  -- Connections are given in two places only.
  cases does with
  | came =>
    -- A new errand uses nothing, like one that is not there.
    left
    simp only [usedOf?, List.getElem?_append]
    split
    · rfl
    · rename_i beyond
      rw [List.getElem?_eq_none (Nat.le_of_not_lt beyond)]
      cases errand - s.errands.length <;> rfl
  | given other launch process connection free held =>
    rw [usedOf?_give]
    split
    · exact .inr ⟨process, connection, rfl, free, held⟩
    · exact .inl rfl
  | launched =>
    left
    rw [usedOf?_launch]
    simp [usedOf?]
  | accepted waiting process socket =>
    rw [usedOf?_give]
    split
    · exact .inr ⟨process, s.connections, rfl, rfl, rfl⟩
    · exact .inl rfl
  | moved | gaveUp | cancelled => exact .inl (usedOf?_moveTo ..)
  | dropped => exact .inl (by simp [usedOf?])
  | _ => exact .inl rfl

/-- The session has a connection, or it is no more; either way nothing is started any more. -/
def Settled (s : Session) (process connection : Nat) : Prop :=
  s.Has process connection ∨ s.holder = none ∧ s.held = .dropped

/-- What a settled session keeps: nothing is started, no other connection is made, and whoever gets
a connection gets the one that is there. -/
structure Reuses (s t : Session) (process connection : Nat) : Prop where
  settled : t.Settled process connection
  processes : t.processes.length = s.processes.length
  connections : t.connections = s.connections
  used : ∀ errand, t.usedOf? errand = s.usedOf? errand ∨
    t.usedOf? errand = some (process, connection)

namespace Settled

variable {s : Session} {process connection : Nat}

/-- Nobody is inside a settled session. -/
theorem free (settled : s.Settled process connection) : s.holder = none :=
  settled.elim And.left And.left

/-- A settled session that is not dropped has its connection. -/
theorem has (settled : s.Settled process connection) (lives : s.held ≠ .dropped) :
    s.Has process connection := settled.resolve_right fun dropped => lives dropped.2

/-- Only a stop takes the connection from a session that is not dropped. -/
theorem holds_step (settled : s.Settled process connection) {event : Event}
    (runs : event ≠ .stop) (lives : event ≠ .drop) :
    (s.step event).holder = none ∧ (s.step event).held = s.held ∧
      (s.step event).processes.length = s.processes.length ∧
      (s.step event).connections = s.connections := by
  have free := settled.free
  have does := does_step s event
  generalize s.step event = t at does
  -- Nobody is inside, so that the events of waiting operations do nothing.
  cases does with
  | accepted _ _ _ inside | gaveUp _ _ _ _ _ inside | cancelled _ _ _ inside | closed _ _ inside =>
    cases free.symm.trans inside
  | launched _ _ _ notDropped unconnected =>
    exact absurd (settled.has notDropped).2 (unconnected _ _)
  | stopped | closing => exact absurd rfl runs
  | dropped => exact absurd rfl lives
  | captured => exact ⟨free, rfl, List.length_modify .., rfl⟩
  | _ => exact ⟨free, rfl, rfl, rfl⟩

/-- Without a stop, every event reuses the connection that is there. -/
theorem step (settled : s.Settled process connection) {event : Event} (runs : event ≠ .stop) :
    s.Reuses (s.step event) process connection := by
  have kept : (s.step event).Settled process connection ∧
      (s.step event).processes.length = s.processes.length ∧
      (s.step event).connections = s.connections := by
    -- A session that is dropped is settled too.
    by_cases drops : event = .drop
    · subst drops
      simp only [Session.step, Session.drop, settled.free, if_true]
      refine ⟨.inr ⟨?_, rfl⟩, by simp, by simp⟩
      simpa using settled.free
    · obtain ⟨free, held, processes, connections⟩ := settled.holds_step runs drops
      exact ⟨settled.imp (fun has => ⟨free, held.trans has.2⟩)
        (fun dropped => ⟨free, held.trans dropped.2⟩), processes, connections⟩
  refine ⟨kept.1, kept.2.1, kept.2.2, fun errand => ?_⟩
  -- An errand that uses something either did before, or is given it now.
  rcases usedOf?_step s event errand with same | ⟨process', connection', given, _, held⟩
  · exact .inl same
  · -- What is given is what the session has, and it has no other connection.
    have equal := (kept.1.has (by simp [held])).2
    rw [held] at equal
    obtain ⟨rfl, rfl⟩ := Held.connected.inj equal
    exact .inr given

/-- Without a stop, a whole run reuses the connection that is there. -/
theorem run (settled : s.Settled process connection) {events : List Event}
    (runs : .stop ∉ events) : s.Reuses (s.run events) process connection := by
  induction events generalizing s with
  | nil => exact ⟨settled, rfl, rfl, fun _ => .inl rfl⟩
  | cons event events ih =>
    -- The first event leaves a settled session to the others.
    obtain ⟨now, later⟩ := not_or.mp (mt List.mem_cons.mpr runs)
    have first := settled.step (Ne.symm now)
    have rest := ih first.settled later
    refine ⟨rest.settled, rest.processes.trans first.processes,
      rest.connections.trans first.connections, fun errand => ?_⟩
    rcases rest.used errand with kept | given
    · exact kept ▸ first.used errand
    · exact .inr given

/-- Whoever enters a connected session is given its connection at once. -/
theorem usedOf?_enter (settled : s.Settled process connection) (lives : s.held ≠ .dropped)
    {errand : Nat} (waiting : s.stageOf? errand = some .waiting) (launch : Launch) :
    (s.step (.enter errand launch)).usedOf? errand = some (process, connection) := by
  have within : errand < s.errands.length := by
    obtain ⟨e, found, _⟩ := Option.map_eq_some_iff.mp waiting
    exact (List.getElem?_eq_some_iff.mp found).1
  -- The launch plays no part, as there is a connection.
  have enters : s.step (.enter errand launch) = s.give errand process connection := by
    simp [Session.step, Session.enter, settled.free, waiting, (settled.has lives).2]
  rw [enters, usedOf?_give, if_pos ⟨rfl, within⟩]

end Settled

/--
One process at most. In every state that a run can reach, no two processes are alive, in the sense
that they were started and not asked to die. When no operation is inside the session, a process is
alive exactly when the session holds it, started or connected, and no file of a socket is there;
while one is inside, only the socket that it waits at has its file. From the moment at which
somebody got a connection, and until the next stop, nothing is started, and whoever comes is given
that same connection at once. And when a stop returns, every process that was ever started has been
asked to die, and remains so.
-/
theorem one_process (patience : Nat) (events : List Event) :
    let s := (start patience).run events
    (∀ process other, s.Alive process → s.Alive other → process = other) ∧
    (s.holder = none → s.sockets = [] ∧ ∀ process, s.Alive process ↔
      s.held = .starting process ∨ ∃ connection, s.held = .connected process connection) ∧
    (∀ socket ∈ s.sockets, ∃ errand process, s.holder = some (.accepting errand process socket)) ∧
    (∀ event errand process connection, s.usedOf? errand ≠ some (process, connection) →
      (s.step event).usedOf? errand = some (process, connection) →
      ∀ more, .stop ∉ more →
        let t := (s.step event).run more
        t.processes.length = (s.step event).processes.length ∧
        t.connections = (s.step event).connections ∧
        (∀ other, t.usedOf? other = (s.step event).usedOf? other ∨
          t.usedOf? other = some (process, connection)) ∧
        (t.held ≠ .dropped → ∀ other launch, t.stageOf? other = some .waiting →
          (t.step (.enter other launch)).usedOf? other = some (process, connection))) ∧
    (∀ event, s.StopReturns event → ∀ process < s.processes.length, ∀ more,
      ((s.step event).run more).Asked process) := by
  -- The session answers for everything that it started.
  intro s
  have accountable : s.Accountable := (Accountable.start patience).run events
  refine ⟨fun process other first second => ?_, fun free => ?_, fun socket there => ?_,
    fun event errand process connection fresh gets more runs => ?_,
    fun event returns process started more => ?_⟩
  · rw [accountable.alive] at first second
    exact Option.some.inj (first.symm.trans second)
  · obtain ⟨alive, none⟩ := accountable.outside free
    refine ⟨none, fun process => ?_⟩
    rw [alive]
    cases s.held <;> simp [Held.process?]
  · rw [accountable.sockets] at there
    cases inside : s.holder with
    | none => simp [inside] at there
    | some holder =>
      cases holder with
      | accepting errand process waited =>
        have same : socket = waited := by simpa [inside, Holder.socket?] using there
        exact ⟨errand, process, by rw [same]⟩
      | closing process connection => simp [inside, Holder.socket?] at there
  · -- Whoever has just got a connection leaves a session that has it.
    have has : (s.step event).Has process connection := by
      rcases usedOf?_step s event errand with same | ⟨process', connection', given, has⟩
      · exact absurd (same.symm.trans gets) fresh
      · obtain ⟨rfl, rfl⟩ := Prod.mk.inj (Option.some.inj (gets.symm.trans given))
        exact has
    have reuses := Settled.run (.inl has) runs
    exact ⟨reuses.processes, reuses.connections, reuses.used,
      fun lives other launch waiting => reuses.settled.usedOf?_enter lives waiting launch⟩
  · have there : process < (s.step event).processes.length := by
      rwa [length_of_stopReturns returns]
    have asked : (s.step event).Asked process :=
      (asked_or_alive there).resolve_right (not_alive_of_stopReturns accountable returns process)
    exact asked.run more

/-- Who enters a session after somebody else was given a connection is given the same one, though a
process could be started; and the process is asked to die by the time that a stop returns. -/
theorem one_process_shared :
    let connected := (start 10).run [.come true, .come true, .enter 0 .launched, .accept]
    connected.usedOf? 0 = some (0, 0) ∧ (connected.step (.enter 1 .launched)).usedOf? 1 = some (0, 0) ∧
      (connected.run [.stop, .close]).Asked 0 := by
  intro connected
  have gets : connected.usedOf? 0 = some (0, 0) := by decide
  -- The first errand is given its connection when the process connects.
  obtain ⟨-, -, -, reuses, -⟩ := one_process 10 [.come true, .come true, .enter 0 .launched]
  obtain ⟨-, -, -, given⟩ := reuses .accept 0 0 0 (by decide) gets [] (by simp)
  -- The stop returns when the connection has closed.
  obtain ⟨-, -, -, -, stopped⟩ := one_process 10 [.come true, .come true, .enter 0 .launched, .accept, .stop]
  exact ⟨gets, given (by decide) 1 .launched (by decide), stopped .close ⟨0, 0, by decide⟩ 0 (by decide) []⟩

end TemplateFacts.Session
