import SnapshotEngine.Engine

/-!
# An engine in time

The engine itself knows no clock.  Here it gets one, and collaborators that take
their time: a call is on its way for a while, then it arrives, and then it is
answered, at once or when the collaborator is ready.  The clock stands still
while anything can happen and then moves to the next instant at which something
is due.

What can happen at one instant happens in this order.  Operations come before
pollers, so that a poller that has just been started asks its first question
only when its operation waits.  For an operation, work that is complete comes
before its deadlines; of the deadlines, the time for the report of the job comes
first, then the time limit, then the end of the caller's patience.  A poller
that was cancelled stops before it hears anything more.

* `now_act` — nothing that happens takes time;
* `now_le_tick`, `now_le_runUntilOver` — the clock never goes back.
-/

namespace SnapshotEngine

/-- The collaborators of an engine, as a state of type `σ`: how long things
take, and what comes of them.  All times are in nanoseconds. -/
structure Backend (σ : Type) where
  /-- How long a call that is made now is on its way. -/
  callDelay : σ → Call → Nat
  /-- What a call leaves behind as it arrives. -/
  arrive : σ → Call → σ
  /-- The answer to a call that has arrived, if there is one yet. -/
  answer? : σ → Call → Option (Answer × σ)
  /-- How long a question that is asked now is on its way. -/
  queryDelay : σ → Nat
  /-- The answer to a question after a job that has arrived, if there is one yet. -/
  ask? : σ → JobHandle → Option (PollerSignal × σ)

/-- The times of an operation. -/
structure Schedule where
  startedAt : Nat
  /-- When its call arrives. -/
  arrivesAt : Nat
  /-- Whether its call has arrived. -/
  arrived : Bool
  /-- When the time is over in which its job may report its end. -/
  graceAt : Option Nat
  /-- When its time limit is reached. -/
  limitAt : Option Nat
  /-- When its caller loses patience. -/
  abandonAt : Option Nat
deriving DecidableEq, Repr, Inhabited

/-- The instants at which something is due for an operation. -/
def Schedule.instants (s : Schedule) : List Nat :=
  s.arrivesAt :: [s.graceAt, s.limitAt, s.abandonAt].filterMap id

/-- How and when an operation was over. -/
structure Ending where
  /-- The outcome, or nothing if the operation was dropped. -/
  outcome : Option Outcome
  startedAt : Nat
  endedAt : Nat
deriving Inhabited

/-- How long an operation took. -/
def Ending.elapsed (e : Ending) : Nat := e.endedAt - e.startedAt

/-- An engine, its collaborators, and the time. -/
structure World (σ : Type) where
  engine : Engine
  site : σ
  now : Nat
  /-- The times of the operations in progress. -/
  schedules : Table Nat Schedule
  /-- When each poller is next to be woken. -/
  wakeAt : Table Nat Nat
  /-- The operations that are over. -/
  endings : Table Nat Ending

namespace World

variable {σ : Type}

/-- An engine and its collaborators at the beginning of time. -/
def ofEngine (engine : Engine) (site : σ) : World σ where
  engine := engine
  site := site
  now := 0
  schedules := .empty
  wakeAt := .empty
  endings := .empty

/-- Whether an instant, if there is one, has come. -/
def isDue (now : Nat) : Option Nat → Bool
  | some t => decide (t ≤ now)
  | none => false

/-- Notes that an operation is over. -/
def close (w : World σ) (id : Nat) (schedule : Schedule) (outcome : Option Outcome) : World σ :=
  { w with
    schedules := w.schedules.erase id
    endings := w.endings.insert id
      { outcome := outcome, startedAt := schedule.startedAt, endedAt := w.now } }

/-- The times of an operation that has just come to wait: its call, if it made
one, sets out, and deadlines that begin now are set. -/
def reschedule (b : Backend σ) (w : World σ) (op : Operation) (schedule : Schedule) : Schedule :=
  { schedule with
    arrivesAt := w.now + ((op.call?.map (b.callDelay w.site)).getD 0)
    arrived := false
    limitAt := schedule.limitAt <|>
      op.confirmation?.map fun _ => w.now + op.settings.operationTimeout.nanos
    graceAt := schedule.graceAt <|>
      if op.isSettling then some (w.now + op.settings.confirmGrace.nanos) else none }

/-- Gives a new poller the time at which its first question is asked. -/
def wakePoller (b : Backend σ) (w : World σ) (id : Nat) : World σ :=
  match w.engine.pollers.get? id, w.wakeAt.get? id with
  | some poller, none =>
      if poller.hasExited then w
      else { w with wakeAt := w.wakeAt.insert id (w.now + b.queryDelay w.site) }
  | _, _ => w

/-- The outcome that an event says an operation ended with, or that it says that
there is none. -/
def ending? : Event → Option (Option Outcome)
  | .ended _ outcome => some (some outcome)
  | .dropped _ => some none
  | _ => none

/-- Keeps the times up after something has happened to an operation. -/
def follow (b : Backend σ) (w : World σ) (id : Nat) (schedule : Schedule)
    (events : List Event) : World σ :=
  match events.findSome? ending? with
  | some outcome => w.close id schedule outcome
  | none =>
      match w.engine.operations.get? id with
      | none => w
      | some op =>
          { w with schedules := w.schedules.insert id (reschedule b w op schedule) }.wakePoller b id

/-- Lets a stimulus reach an operation. -/
def feed (b : Backend σ) (w : World σ) (id : Nat) (schedule : Schedule)
    (stimulus : Stimulus) : World σ :=
  let after := w.engine.step stimulus
  { w with engine := after.1 }.follow b id schedule after.2

/-- Starts what was ordered; its number is the engine's next.  The caller's
patience may have an end. -/
def order (b : Backend σ) (w : World σ) (settings : Settings) (order : Order)
    (patience : Option Nat) : World σ :=
  w.feed b w.engine.next
    { startedAt := w.now
      arrivesAt := w.now
      arrived := false
      graceAt := none
      limitAt := none
      abandonAt := patience.map (w.now + ·) }
    (.ordered settings order)

/-- The signal for which an operation need not wait any longer, if there is
one. -/
def ripeSignal? (w : World σ) (id : Nat) (op : Operation) (schedule : Schedule) :
    Option Stimulus :=
  if (op.isSettling || op.isJoining) && w.engine.pollerExited id then
    some (.signalled id .pollerExited)
  else if op.isSettling && isDue w.now schedule.graceAt then some (.signalled id .graceOver)
  else if isDue w.now schedule.limitAt then some (.signalled id .limitOver)
  else if isDue w.now schedule.abandonAt then some (.dropped id)
  else none

/-- Lets an operation do what it can do now, if it can do anything: its call
arrives, or is answered, or a signal is ripe. -/
def actOperation (b : Backend σ) (w : World σ) (id : Nat) (schedule : Schedule) :
    Option (World σ) :=
  match w.engine.operations.get? id with
  | none => none
  | some op =>
      let deadline := (w.ripeSignal? id op schedule).map (w.feed b id schedule)
      match op.call? with
      | none => deadline
      | some call =>
          if schedule.arrived then
            match b.answer? w.site call with
            | some (answer, site) =>
                some ({ w with site := site }.feed b id schedule
                  (.signalled id (.answered answer)))
            | none => deadline
          else if schedule.arrivesAt ≤ w.now then
            some { w with
              site := b.arrive w.site call
              schedules := w.schedules.insert id { schedule with arrived := true } }
          else deadline

/-- Wakes a poller with a signal; it is to be woken again after the given
time, unless it has stopped. -/
def rouse (w : World σ) (id : Nat) (signal : PollerSignal) (again : Nat) : World σ :=
  let engine := (w.engine.step (.woken id signal)).1
  let exited := (engine.pollers.get? id).all (·.hasExited)
  { w with
    engine := engine
    wakeAt := if exited then w.wakeAt.erase id else w.wakeAt.insert id (w.now + again) }

/-- Lets a poller do what it can do now, if it can do anything. -/
def actPoller (b : Backend σ) (w : World σ) (id due : Nat) : Option (World σ) :=
  match w.engine.pollers.get? id with
  | none => none
  | some poller =>
      if poller.cancelled then some (w.rouse id .woken 0)
      else if w.now < due then none
      else
        match poller.stage with
        | .asking =>
            (b.ask? w.site poller.job).map fun heard =>
              { w with site := heard.2 }.rouse id heard.1 poller.pause.nanos
        | .resting => some (w.rouse id .woken (b.queryDelay w.site))
        | .exited => none

/-- The entries of a table of numbered things, by number. -/
def numbered {α : Type} (t : Table Nat α) : List (Nat × α) :=
  t.entries.mergeSort (fun a b => decide (a.1 ≤ b.1))

/-- The first thing that an operation can do now. -/
def actOperations (b : Backend σ) (w : World σ) : Option (World σ) :=
  (numbered w.schedules).findSome? fun entry => w.actOperation b entry.1 entry.2

/-- The first thing that a poller can do now. -/
def actPollers (b : Backend σ) (w : World σ) : Option (World σ) :=
  (numbered w.wakeAt).findSome? fun entry => w.actPoller b entry.1 entry.2

/-- The first thing that can happen now. -/
def act (b : Backend σ) (w : World σ) : Option (World σ) :=
  w.actOperations b <|> w.actPollers b

/-- The next instant at which something is due. -/
def nextDue? (w : World σ) : Option Nat :=
  let instants :=
    (w.schedules.entries.flatMap fun entry => entry.2.instants)
      ++ w.wakeAt.entries.map (·.2)
  (instants.filter (w.now < ·)).min?

/-- The next thing that happens: something at this instant, or else the clock
moves. -/
def tick (b : Backend σ) (w : World σ) : Option (World σ) :=
  match w.act b with
  | some after => some after
  | none => w.nextDue?.map fun due => { w with now := due }

/-- The next thing that happens before an instant. -/
def tickBefore (b : Backend σ) (t : Nat) (w : World σ) : Option (World σ) :=
  if w.now < t then
    match w.act b with
    | some after => some after
    | none => (w.nextDue?.filter (· < t)).map fun due => { w with now := due }
  else none

/-- Lets one thing happen after the other while `next` names one, at most `fuel`
of them. -/
def iterate (next : World σ → Option (World σ)) : Nat → World σ → World σ
  | 0, w => w
  | fuel + 1, w =>
      match next w with
      | some after => iterate next fuel after
      | none => w

/-- More things than happen in any run. -/
def plenty : Nat := 1000000000000000

/-- Lets everything happen that happens before an instant; then it is that
instant. -/
def runTo (b : Backend σ) (w : World σ) (t : Nat) : World σ :=
  let after := iterate (tickBefore b t) plenty w
  { after with now := max after.now t }

/-- Lets operations do what they can do now, and pollers nothing. -/
def settleOperations (b : Backend σ) (w : World σ) : World σ :=
  iterate (actOperations b) plenty w

/-- Whether operations are over. -/
def areOver (w : World σ) (ids : List Nat) : Bool :=
  ids.all w.endings.contains

/-- Lets things happen until all of the given operations are over. -/
def runUntilOver (b : Backend σ) (w : World σ) (ids : List Nat) : World σ :=
  iterate (fun w => if w.areOver ids then none else w.tick b) plenty w

/-- Whether a poller has stopped. -/
def hasStopped (w : World σ) (id : Nat) : Bool := w.engine.pollerExited id

/-- The next thing that happens before an instant, until a poller has stopped. -/
def tickToStop (b : Backend σ) (id t : Nat) (w : World σ) : Option (World σ) :=
  if w.hasStopped id then none else w.tickBefore b t

/-- A poller that has just been started, without any operation. -/
def ofPoller (b : Backend σ) (registry : Registry) (site : σ) (id : Nat) (job : JobHandle)
    (pause : Duration) : World σ :=
  let engine :=
    { Engine.ofRegistry registry with pollers := Table.empty.insert id (Poller.start job pause) }
  (ofEngine engine site).wakePoller b id

/-- Gives a poller some time to hear a terminal status, then cancels it and waits until
it has stopped; the last status it heard is what comes of it.  At most `fuel` things
happen before, and as many after. -/
def settlePoller (b : Backend σ) (fuel : Nat) (w : World σ) (id grace : Nat) :
    Option JobStatus × World σ :=
  let deadline := w.now + grace
  let heard := iterate (tickToStop b id deadline) fuel w
  let after :=
    if heard.hasStopped id then heard
    else
      iterate (tickToStop b id (deadline + 1)) fuel
        { heard with now := deadline, engine := heard.engine.cancelPoller id }
  ((after.engine.pollers.get? id).bind (·.last), after)

@[simp] theorem now_wakePoller (b : Backend σ) (w : World σ) (id : Nat) :
    (w.wakePoller b id).now = w.now := by
  unfold wakePoller
  split
  · split <;> rfl
  · rfl

@[simp] theorem now_follow (b : Backend σ) (w : World σ) (id : Nat) (schedule : Schedule)
    (events : List Event) : (w.follow b id schedule events).now = w.now := by
  unfold follow
  split
  · rfl
  · split
    · rfl
    · simp

@[simp] theorem now_feed (b : Backend σ) (w : World σ) (id : Nat) (schedule : Schedule)
    (stimulus : Stimulus) : (w.feed b id schedule stimulus).now = w.now := by
  simp [feed]

theorem now_actOperation {b : Backend σ} {w after : World σ} {id : Nat} {schedule : Schedule}
    (h : w.actOperation b id schedule = some after) : after.now = w.now := by
  have hdeadline : ∀ op,
      (w.ripeSignal? id op schedule).map (w.feed b id schedule) = some after →
        after.now = w.now := by
    intro op hop
    obtain ⟨stimulus, _, rfl⟩ := Option.map_eq_some_iff.1 hop
    exact now_feed b w id schedule stimulus
  unfold actOperation at h
  split at h
  · cases h
  split at h
  · exact hdeadline _ h
  split at h
  · split at h
    · cases h
      exact now_feed b _ id schedule _
    · exact hdeadline _ h
  split at h
  · cases h
    rfl
  · exact hdeadline _ h

theorem now_actPoller {b : Backend σ} {w after : World σ} {id due : Nat}
    (h : w.actPoller b id due = some after) : after.now = w.now := by
  unfold actPoller at h
  split at h
  · cases h
  split at h
  · cases h
    rfl
  split at h
  · cases h
  split at h
  · obtain ⟨heard, _, rfl⟩ := Option.map_eq_some_iff.1 h
    rfl
  · cases h
    rfl
  · cases h

/-- Nothing that happens takes time. -/
theorem now_act {b : Backend σ} {w after : World σ} (h : w.act b = some after) :
    after.now = w.now := by
  unfold act at h
  rcases hops : w.actOperations b with _ | found
  · rw [hops] at h
    obtain ⟨entry, _, hentry⟩ := List.exists_of_findSome?_eq_some h
    exact now_actPoller hentry
  · rw [hops] at h
    cases h
    obtain ⟨entry, _, hentry⟩ := List.exists_of_findSome?_eq_some hops
    exact now_actOperation hentry

/-- The clock never goes back. -/
theorem now_le_tick {b : Backend σ} {w after : World σ} (h : w.tick b = some after) :
    w.now ≤ after.now := by
  unfold tick at h
  split at h
  · rename_i found hact
    cases h
    exact Nat.le_of_eq (now_act hact).symm
  · obtain ⟨due, hdue, rfl⟩ := Option.map_eq_some_iff.1 h
    have hmem := List.min?_mem hdue
    have hlt := (List.mem_filter.1 hmem).2
    exact Nat.le_of_lt (by simpa using hlt)

/-- It does not for as long as some operations are waited for. -/
theorem now_le_runUntilOver (b : Backend σ) (w : World σ) (ids : List Nat) :
    w.now ≤ (w.runUntilOver b ids).now := by
  unfold runUntilOver
  generalize plenty = fuel
  induction fuel generalizing w with
  | zero => exact Nat.le_refl _
  | succ fuel ih =>
      rw [iterate]
      split
      · rename_i after hafter
        split at hafter
        · cases hafter
        · exact Nat.le_trans (now_le_tick hafter) (ih after)
      · exact Nat.le_refl _

end World

end SnapshotEngine
