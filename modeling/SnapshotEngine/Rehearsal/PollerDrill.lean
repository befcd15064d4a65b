import SnapshotEngine.Rehearsal.Cast

/-!
# A poller by itself

A poller is started for a job, without any operation, against a control plane
that follows a script.  Then its owner lets time pass, settles it, or lets it
go.

To settle a poller is to give it some time to hear a terminal status, then to
cancel it and to wait until it has stopped; the last status it heard is what
comes of it.
-/

namespace SnapshotEngine

/-- What the owner of a poller may do. -/
inductive PollerStep where
  | sleep (d : Duration)
  | settle (grace : Duration)
  /-- Let the poller go, which cancels it. -/
  | release
deriving DecidableEq, Repr, Inhabited

/-- What is seen after a step. -/
structure PollerView where
  /-- What came of settling the poller, if it was settled in this step. -/
  settled : Option (Option JobStatus)
  /-- The time. -/
  now : Duration
  /-- How many questions were asked so far. -/
  queries : Nat
  /-- What the registry says of the volume of the job. -/
  backupStatus : Option JobStatus
  restoreStatus : Option JobStatus
deriving Repr, Inhabited

/-- A poller and its owner. -/
structure PollerDrill where
  world : World Cast
  job : JobHandle
  /-- Whether the owner still has the poller. -/
  owned : Bool

namespace PollerDrill

/-- The number of the only poller. -/
def pollerId : Nat := 0

/-- Starts a poller for a job. -/
def start (registry : Registry) (plane : ScriptedPlane) (queryDelay pause : Duration)
    (job : JobHandle) : PollerDrill :=
  let cast :=
    { Cast.ofDirectory (.ofClaims .empty) with plane := plane, queryDelay := queryDelay }
  { world := .ofPoller Cast.backend registry cast pollerId job pause
    job := job
    owned := true }

/-- Cancels the poller. -/
def cancel (d : PollerDrill) : PollerDrill :=
  { d with world := { d.world with engine := d.world.engine.cancelPoller pollerId } }

/-- Gives the poller some time to hear a terminal status, then cancels it and
waits until it has stopped. -/
def settle (d : PollerDrill) (grace : Duration) : Option JobStatus × PollerDrill :=
  let (last, world) :=
    d.world.settlePoller Cast.backend World.plenty pollerId grace.nanos
  (last, { d with world := world, owned := false })

/-- What is seen now. -/
def view (d : PollerDrill) (settled : Option (Option JobStatus)) : PollerView where
  settled := settled
  now := ⟨d.world.now⟩
  queries := d.world.site.plane.queries
  backupStatus := d.world.engine.registry.backupStatus? d.job.volumeId
  restoreStatus := d.world.engine.registry.restoreStatus? d.job.volumeId

/-- Takes a step. -/
def step (d : PollerDrill) : PollerStep → PollerView × PollerDrill
  | .sleep duration =>
      let after := { d with world := d.world.runTo Cast.backend (d.world.now + duration.nanos) }
      (after.view none, after)
  | .settle grace =>
      if d.owned then
        let (last, after) := d.settle grace
        (after.view (some last), after)
      else (d.view none, d)
  | .release =>
      let after := if d.owned then { d.cancel with owned := false } else d
      (after.view none, after)

/-- Takes one step after the other. -/
def run (d : PollerDrill) : List PollerStep → List PollerView
  | [] => []
  | s :: rest =>
      let (view, after) := d.step s
      view :: after.run rest

end PollerDrill

end SnapshotEngine
