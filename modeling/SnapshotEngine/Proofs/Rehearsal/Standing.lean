import SnapshotEngine.Proofs.Rehearsal.Timetable

/-!
# One operation in time

While one operation has its data moved and its job asked after, and nothing else is
scheduled, very little of the world changes: the clock, how far the operation and
its poller have got, and how many questions were asked.  Such a standing fixes the
whole schedule, and there are few ways to move from one to the next.

* `Prospect`, `Standing`, `Shows` — an operation, how far it has got, and the engine
  that it has got that far in;
* `Move`, `Closes` — how it gets on, and how it comes to its end;
* `act_world`, `actOperation_world` — what can happen in its world.
-/

namespace SnapshotEngine

/-- An operation whose job is about to be accepted, and the timetable that its
collaborators keep to. -/
structure Prospect where
  timetable : Timetable
  id : Nat
  op : Operation
  job : JobHandle
  action : TransferAction
  object : String
  ordered : op.job? = some job
  moves : op.transfer? = some (action, object)
  /-- Not everything happens at once. -/
  takesTime : 0 < op.settings.pollInterval.nanos + timetable.queryDelay

/-- How far an operation and its poller have got. -/
structure Standing where
  now : Nat
  stage : ConfirmationStage
  /-- Whether the order to move the data has arrived. -/
  arrived : Bool
  poller : PollerStage
  /-- How many questions were asked. -/
  asked : Nat
deriving DecidableEq, Repr

namespace Prospect

variable (x : Prospect)

/-- How long the poller rests. -/
def pause : Nat := x.op.settings.pollInterval.nanos

/-- How long the job may take to report its end. -/
def grace : Nat := x.op.settings.confirmGrace.nanos

/-- How long the operation may take. -/
def limit : Nat := x.op.settings.operationTimeout.nanos

/-- When the data has moved. -/
def moved : Nat := x.timetable.transferTime.getD 0

/-- The transfer at a stage. -/
def confirmation (stage : ConfirmationStage) : Confirmation where
  job := x.job
  action := x.action
  object := x.object
  stage := stage

/-- The operation, once its job was accepted. -/
def operation (stage : ConfirmationStage) : Operation := x.op.confirm (x.confirmation stage)

/-- The times of the operation. -/
def schedule (s : Standing) : Schedule where
  startedAt := 0
  arrivesAt :=
    match s.stage with
    | .transferring | .settling => x.moved
    | .joining => x.moved + x.grace
  arrived := s.arrived
  graceAt :=
    match s.stage with
    | .transferring => none
    | .settling | .joining => some (x.moved + x.grace)
  limitAt := some x.limit
  abandonAt := none

/-- When the poller is next to be woken. -/
def wake? (s : Standing) : Option Nat :=
  match s.poller with
  | .asking => some (x.timetable.answeredAt x.pause s.asked)
  | .resting => some (x.timetable.answeredAt x.pause s.asked - x.timetable.queryDelay)
  | .exited => none

/-- The instants at which something is due. -/
def instants (s : Standing) : List Nat := (x.schedule s).instants ++ (x.wake? s).toList

/-- The world of an engine in which only this operation is scheduled. -/
def world (s : Standing) (e : Engine) : World Nat where
  engine := e
  site := s.asked
  now := s.now
  schedules := ⟨[(x.id, x.schedule s)]⟩
  wakeAt := ⟨((x.wake? s).map (x.id, ·)).toList⟩
  endings := .empty

/-- What an engine has in which the operation and its poller stand like that. -/
structure Shows (s : Standing) (e : Engine) : Prop where
  operation : e.operations.get? x.id = some (x.operation s.stage)
  poller : ∃ p, e.pollers.get? x.id = some p ∧ p.job = x.job ∧
    p.pause = x.op.settings.pollInterval ∧ p.stage = s.poller ∧
    p.cancelled = decide (s.stage = .joining)
  known : ∃ v, e.registry.volume? x.job.volumeId = some v
  noted : e.registry.statusOf x.job = x.timetable.statusAfter s.asked

/-- The operation can do nothing before some deadline. -/
structure Idle (s : Standing) : Prop where
  unmoved : s.stage = .transferring → s.arrived = true → x.timetable.transferTime = none
  underWay : s.stage = .transferring → s.arrived = false → s.now < x.moved
  polled : s.stage ≠ .transferring → s.poller ≠ .exited
  graced : s.stage = .settling → s.now < x.moved + x.grace

/-- How an operation and its poller get on. -/
inductive Move : Standing → Standing → Prop where
  /-- The order to move the data arrives. -/
  | arrives {s : Standing} (stage : s.stage = .transferring) (underWay : s.arrived = false)
      (due : x.moved ≤ s.now) : Move s { s with arrived := true }
  /-- The data has moved. -/
  | moved {s : Standing} (stage : s.stage = .transferring) (arrived : s.arrived = true)
      (done : x.timetable.transferTime = some s.now) (succeeds : x.timetable.succeeds) :
      Move s { s with stage := .settling, arrived := false }
  /-- The grace is over, and the poller is asked to stop. -/
  | graceOver {s : Standing} (stage : s.stage = .settling) (polled : s.poller ≠ .exited)
      (due : s.now = x.moved + x.grace) :
      Move s { s with stage := .joining, arrived := false }
  /-- The poller hears an answer. -/
  | hears {s : Standing} (idle : x.Idle s) (early : s.now < x.limit) (stage : s.stage ≠ .joining)
      (poller : s.poller = .asking) (due : s.now = x.timetable.answeredAt x.pause s.asked) :
      Move s
        { s with
          poller := if x.timetable.isTerminal s.asked then .exited else .resting
          asked := s.asked + 1 }
  /-- The poller has rested, and asks again. -/
  | asks {s : Standing} (idle : x.Idle s) (early : s.now < x.limit) (stage : s.stage ≠ .joining)
      (poller : s.poller = .resting)
      (due : s.now + x.timetable.queryDelay = x.timetable.answeredAt x.pause s.asked) :
      Move s { s with poller := .asking }
  /-- The poller stops as it was asked to. -/
  | stops {s : Standing} (idle : x.Idle s) (early : s.now < x.limit) (stage : s.stage = .joining) :
      Move s { s with poller := .exited }
  /-- Nothing can happen now, and the clock moves. -/
  | waits {s : Standing} {due : Nat} (idle : x.Idle s) (early : s.now < x.limit)
      (stage : s.stage ≠ .joining) (sleeps : ∀ t ∈ x.wake? s, s.now < t)
      (next : ((x.instants s).filter (s.now < ·)).min? = some due) :
      Move s { s with now := due }

/-- How an operation comes to its end. -/
inductive Closes : Standing → Resolution → Prop where
  /-- The transfer has failed. -/
  | failed {s : Standing} {moved : Nat} (stage : s.stage = .transferring)
      (arrived : s.arrived = true) (done : x.timetable.transferTime = some moved)
      (fails : x.timetable.succeeds = false) : Closes s .failed
  /-- The time limit is reached. -/
  | timedOut {s : Standing} (idle : x.Idle s) (late : x.limit ≤ s.now) : Closes s .timedOut
  /-- The poller has stopped. -/
  | settled {s : Standing} (stage : s.stage ≠ .transferring) (exited : s.poller = .exited) :
      Closes s (.heard (x.timetable.statusAfter s.asked))

/-- The operation is over since some time, and has reported what came out. -/
def Over (resolution : Resolution) (endedAt : Nat) (w : World Nat) : Prop :=
  ∃ outcome, x.op.outcome? resolution = some outcome ∧ w.schedules.entries = [] ∧
    w.endings.get? x.id = some ⟨some outcome, 0, endedAt⟩

variable {x : Prospect} {s : Standing} {e : Engine}

theorem confirmation?_operation (x : Prospect) (stage : ConfirmationStage) :
    (x.operation stage).confirmation? = some (x.confirmation stage) :=
  (Operation.confirmation?_call?_confirm x.ordered _).1

theorem call?_operation (x : Prospect) (stage : ConfirmationStage) :
    (x.operation stage).call? =
      if stage = .transferring then some (.move x.action x.object) else none := by
  refine (Operation.confirmation?_call?_confirm x.ordered _).2.trans ?_
  cases stage <;> rfl

theorem isSettling_operation (x : Prospect) (stage : ConfirmationStage) :
    (x.operation stage).isSettling = decide (stage = .settling) := by
  unfold Operation.isSettling
  rw [confirmation?_operation]
  cases stage <;> rfl

theorem isJoining_operation (x : Prospect) (stage : ConfirmationStage) :
    (x.operation stage).isJoining = decide (stage = .joining) := by
  unfold Operation.isJoining
  rw [confirmation?_operation]
  cases stage <;> rfl

theorem settings_operation (x : Prospect) (stage : ConfirmationStage) :
    (x.operation stage).settings = x.op.settings :=
  Operation.settings_confirm ..

theorem Shows.pollerExited (h : x.Shows s e) :
    e.pollerExited x.id = decide (s.poller = .exited) := by
  obtain ⟨p, hp, _, _, hstage, _⟩ := h.poller
  simp only [Engine.pollerExited, hp, Option.map_some, Option.getD_some, Poller.hasExited, hstage]
  cases s.poller <;> rfl

theorem get?_wakeAt_world (x : Prospect) (s : Standing) (e : Engine) :
    (x.world s e).wakeAt.get? x.id = x.wake? s := by
  cases hwake : x.wake? s <;> simp [world, hwake, Table.get?, Table.lookupIn]

/-! ## What can happen -/

/-- The collaborators keep to the timetable. -/
abbrev backend (x : Prospect) : Backend Nat := x.timetable.backend

theorem act_world (x : Prospect) (s : Standing) (e : Engine) :
    (x.world s e).act x.backend =
      ((x.world s e).actOperation x.backend x.id (x.schedule s) <|>
        (x.wake? s).bind ((x.world s e).actPoller x.backend x.id)) := by
  have hoperations : (x.world s e).actOperations x.backend =
      (x.world s e).actOperation x.backend x.id (x.schedule s) := by
    simp [World.actOperations, World.numbered, world]
  have hpollers : (x.world s e).actPollers x.backend =
      (x.wake? s).bind ((x.world s e).actPoller x.backend x.id) := by
    cases hwake : x.wake? s <;> simp [World.actPollers, World.numbered, world, hwake]
  unfold World.act
  rw [hoperations, hpollers]

/-- The deadline that an operation has reached, or the stop of its poller. -/
def ripe? (x : Prospect) (s : Standing) : Option Signal :=
  if s.stage ≠ .transferring ∧ s.poller = .exited then some .pollerExited
  else if s.stage = .settling ∧ x.moved + x.grace ≤ s.now then some .graceOver
  else if x.limit ≤ s.now then some .limitOver
  else none

/-- What an operation hears now, if it hears anything. -/
def signal? (x : Prospect) (s : Standing) : Option Signal :=
  if s.stage = .transferring ∧ s.arrived = true ∧ x.timetable.transferTime.isSome then
    some (.answered (.moved x.timetable.succeeds))
  else x.ripe? s

/-- The world after the operation has heard a signal. -/
def told (x : Prospect) (s : Standing) (e : Engine) (signal : Signal) : World Nat :=
  (x.world s e).feed x.backend x.id (x.schedule s) (.signalled x.id signal)

theorem ripeSignal?_world (h : x.Shows s e) :
    (x.world s e).ripeSignal? x.id (x.operation s.stage) (x.schedule s) =
      (x.ripe? s).map (.signalled x.id) := by
  have hexited : (x.world s e).engine.pollerExited x.id = decide (s.poller = .exited) :=
    h.pollerExited
  unfold World.ripeSignal? ripe?
  rw [isSettling_operation, isJoining_operation, hexited]
  cases hstage : s.stage <;>
    simp [World.isDue, schedule, world, hstage, apply_ite (Option.map (Stimulus.signalled x.id))]

/-- The order to move the data arrives, or the operation hears something. -/
theorem actOperation_world (h : x.Shows s e) :
    (x.world s e).actOperation x.backend x.id (x.schedule s) =
      if s.stage = .transferring ∧ s.arrived = false ∧ x.moved ≤ s.now then
        some (x.world { s with arrived := true } e)
      else (x.signal? s).map (x.told s e) := by
  have hfound : (x.world s e).engine.operations.get? x.id = some (x.operation s.stage) :=
    h.operation
  have hdeadline : ((x.world s e).ripeSignal? x.id (x.operation s.stage) (x.schedule s)).map
      ((x.world s e).feed x.backend x.id (x.schedule s)) = (x.ripe? s).map (x.told s e) := by
    rw [ripeSignal?_world h, Option.map_map]
    rfl
  unfold World.actOperation
  simp only [hfound, hdeadline, call?_operation]
  obtain ⟨now, stage, arrived, poller, asked⟩ := s
  cases stage with
  | transferring =>
      cases arrived with
      | true =>
          cases hdone : x.timetable.transferTime with
          | none => simp [schedule, signal?, hdone, backend, Timetable.backend]
          | some moved => simp [schedule, signal?, hdone, backend, Timetable.backend, told, world]
      | false =>
          by_cases hdue : x.moved ≤ now
          · simp [schedule, hdue, backend, Timetable.backend, world, Table.insert, wake?]
          · simp [schedule, hdue, signal?, world]
  | settling => simp [signal?]
  | joining => simp [signal?]

end Prospect

end SnapshotEngine
