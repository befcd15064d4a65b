import SnapshotEngine.ControlPlane.Error
import SnapshotEngine.Duration
import SnapshotEngine.Job.Request
import SnapshotEngine.Registry

/-!
# The status poller

A poller asks after one job, notes in the registry what it hears, rests, and
asks again, until it hears a terminal status or is cancelled.  A question that
goes unanswered stops nothing.

Cancelling does not stop a poller at once: it stops when it is next woken, but
whatever wakes it then is not looked at any more.  So a cancelled poller writes
nothing and has no further answer served to it.

* `advance_cancelled` — a cancelled poller stops without noting anything;
* `job_advance` — a poller never changes its job.
-/

namespace SnapshotEngine

namespace Registry

/-- Notes what was heard of a job with the volume that it works on. -/
def record (r : Registry) (job : JobHandle) (status : JobStatus) : Registry :=
  match job.kind with
  | .backup => r.setBackupStatus job.volumeId status
  | .restore => r.setRestoreStatus job.volumeId status

/-- What was last heard of a job of that kind and volume; a volume that is not
known has not been heard of. -/
def statusOf (r : Registry) (job : JobHandle) : JobStatus :=
  match job.kind with
  | .backup => (r.backupStatus? job.volumeId).getD .pending
  | .restore => (r.restoreStatus? job.volumeId).getD .pending

end Registry

/-- Where a poller stands. -/
inductive PollerStage where
  /-- It has asked, or is about to ask for the first time. -/
  | asking
  /-- It rests before it asks again. -/
  | resting
  /-- It has stopped. -/
  | exited
deriving DecidableEq, Repr, Inhabited

/-- A poller. -/
structure Poller where
  job : JobHandle
  /-- How long it rests between an answer and the next question. -/
  pause : Duration
  stage : PollerStage
  /-- The last status it heard. -/
  last : Option JobStatus
  cancelled : Bool
deriving DecidableEq, Repr, Inhabited

/-- What may wake a poller. -/
inductive PollerSignal where
  /-- The question was answered. -/
  | answered (answer : Except ControlPlaneError JobStatus)
  /-- Asking brought the poller down. -/
  | crashed
  /-- The rest is over, or the poller was cancelled. -/
  | woken
deriving Repr, Inhabited

namespace Poller

/-- A poller that has not asked yet. -/
def start (job : JobHandle) (pause : Duration) : Poller where
  job := job
  pause := pause
  stage := .asking
  last := none
  cancelled := false

/-- Asks a poller to stop. -/
def cancel (p : Poller) : Poller := { p with cancelled := true }

/-- Whether a poller has stopped. -/
def hasExited (p : Poller) : Bool := p.stage == .exited

/-- The answer that a signal serves to a poller: it must be waiting for one and
not be cancelled. -/
def served? (p : Poller) : PollerSignal → Option (Except ControlPlaneError JobStatus)
  | .answered answer =>
      if p.stage = .asking ∧ p.cancelled = false then some answer else none
  | _ => none

/-- The status that a signal makes a poller note. -/
def noted? (p : Poller) (signal : PollerSignal) : Option JobStatus :=
  match p.served? signal with
  | some (.ok status) => some status
  | _ => none

/-- What becomes of a poller that is woken. -/
def advance (p : Poller) (signal : PollerSignal) : Poller :=
  if p.stage = .exited then p
  else if p.cancelled then { p with stage := .exited }
  else
    match p.stage, signal with
    | .asking, .answered (.ok status) =>
        { p with
          last := some status
          stage := if status.isTerminal then .exited else .resting }
    | .asking, .answered (.error _) => { p with stage := .resting }
    | .asking, .crashed => { p with last := none, stage := .exited }
    | .resting, .woken => { p with stage := .asking }
    | _, _ => p

/-- A cancelled poller stops without noting anything. -/
theorem advance_cancelled {p : Poller} (h : p.cancelled) (signal : PollerSignal) :
    (p.advance signal).hasExited ∧ p.noted? signal = none := by
  constructor
  · unfold advance hasExited
    split
    · rename_i hexited
      simp [hexited]
    · simp
  · unfold noted? served?
    cases signal <;> simp [h]

/-- A poller never changes its job, nor how long it rests. -/
theorem job_advance (p : Poller) (signal : PollerSignal) :
    (p.advance signal).job = p.job ∧ (p.advance signal).pause = p.pause := by
  unfold advance
  split
  · exact ⟨rfl, rfl⟩
  split
  · exact ⟨rfl, rfl⟩
  split <;> exact ⟨rfl, rfl⟩

end Poller

end SnapshotEngine
