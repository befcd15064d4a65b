import SnapshotEngine.Operation.Call

/-!
# Transfer and confirmation

Once the control plane has accepted a job, the data is moved while a poller
asks after the job.  When the transfer has succeeded the job is given some time
to report its end; if it does not, the poller is cancelled and its stop is
awaited.  Then whatever was noted of the job decides.

A transfer that fails, and the deadline of the whole, end this at any point
before.
-/

namespace SnapshotEngine

/-- How far a transfer and its confirmation have got. -/
inductive ConfirmationStage where
  /-- The data is being moved. -/
  | transferring
  /-- The data has moved; the job may report its end. -/
  | settling
  /-- The poller was cancelled and is about to stop. -/
  | joining
deriving DecidableEq, Repr, Inhabited

/-- A transfer with its confirmation: the job, what is moved, and how far it
has got. -/
structure Confirmation where
  job : JobHandle
  action : TransferAction
  object : String
  stage : ConfirmationStage
deriving DecidableEq, Repr, Inhabited

/-- What becomes of a transfer and its confirmation. -/
inductive Verdict where
  | continues (confirmation : Confirmation)
  /-- What was noted of the job decides. -/
  | settled
  | failed (cause : TransferError)
  | timedOut
deriving DecidableEq, Repr, Inhabited

namespace Confirmation

/-- The transfer of an object for a job, about to start. -/
def start (job : JobHandle) (action : TransferAction) (object : String) : Confirmation where
  job := job
  action := action
  object := object
  stage := .transferring

/-- The call that is waited for: the transfer, while it lasts. -/
def call? (c : Confirmation) : Option Call :=
  match c.stage with
  | .transferring => some (.move c.action c.object)
  | .settling | .joining => none

/-- What a signal does; nothing if it is not waited for. -/
def advance (c : Confirmation) : Signal → Option Verdict
  | .limitOver => some .timedOut
  | .answered (.moved done) =>
      if c.stage = .transferring then
        match c.action.outcome c.object done with
        | .ok () => some (.continues { c with stage := .settling })
        | .error cause => some (.failed cause)
      else none
  | .graceOver =>
      if c.stage = .settling then some (.continues { c with stage := .joining }) else none
  | .pollerExited => if c.stage = .transferring then none else some .settled
  | .answered _ => none

/-- The job, the object and what is done with it stay the same throughout. -/
theorem advance_continues {c c' : Confirmation} {signal : Signal}
    (h : c.advance signal = some (.continues c')) :
    c'.job = c.job ∧ c'.action = c.action ∧ c'.object = c.object := by
  unfold advance at h
  split at h
  · simp at h
  · split at h
    · split at h
      · simp only [Option.some.injEq, Verdict.continues.injEq] at h
        subst h
        exact ⟨rfl, rfl, rfl⟩
      · simp at h
    · simp at h
  · split at h
    · simp only [Option.some.injEq, Verdict.continues.injEq] at h
      subst h
      exact ⟨rfl, rfl, rfl⟩
    · simp at h
  · split at h <;> simp at h
  · simp at h

end Confirmation

end SnapshotEngine
