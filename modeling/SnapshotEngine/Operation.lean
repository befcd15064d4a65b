import SnapshotEngine.Operation.Backup
import SnapshotEngine.Operation.Removal
import SnapshotEngine.Operation.Restore

/-!
# Operations

An operation is a backup, a restore or a removal in progress.  What is common to
the three: they wait for calls, they are resumed by signals, two of them hold
the marker of a volume, and the same two have a job that a poller asks after.
-/

namespace SnapshotEngine

/-- What an engine may be asked to do. -/
inductive Order where
  | backup (volumeId backupName : String)
  | restore (snapshotId kind : String)
  | removal (snapshotId : String)
deriving DecidableEq, Repr, Inhabited

/-- An operation in progress. -/
inductive Operation where
  | backup (state : Backup)
  | restore (state : Restore)
  | removal (state : Removal)
deriving DecidableEq, Repr

namespace Operation

/-- Starts what was ordered. -/
def start (r : Registry) (settings : Settings) : Order → Progress Operation
  | .backup volumeId backupName => (Backup.start r settings volumeId backupName).map .backup
  | .restore snapshotId kind => (Restore.start r settings snapshotId kind).map .restore
  | .removal snapshotId => (Removal.start r settings snapshotId).map .removal

/-- What a signal does; nothing if it is not waited for. -/
def resume (r : Registry) (signal : Signal) : Operation → Option (Progress Operation)
  | .backup state => (Backup.resume r state signal).map (·.map .backup)
  | .restore state => (Restore.resume r state signal).map (·.map .restore)
  | .removal state => (Removal.resume r state signal).map (·.map .removal)

/-- The settings that an operation goes by. -/
def settings : Operation → Settings
  | .backup state => state.settings
  | .restore state => state.settings
  | .removal state => state.settings

/-- The call that is waited for. -/
def call? : Operation → Option Call
  | .backup state => state.call?
  | .restore state => state.call?
  | .removal state => state.call?

/-- The volume whose marker an operation holds. -/
def marker? : Operation → Option String
  | .backup state => some state.volumeId
  | .restore state =>
      match state.stage with
      | .provisioning => none
      | .ordering target | .confirming target _ => some target.name
  | .removal _ => none

/-- The transfer and its confirmation, once the job was accepted. -/
def confirmation? : Operation → Option Confirmation
  | .backup state =>
      match state.stage with
      | .confirming confirmation => some confirmation
      | _ => none
  | .restore state =>
      match state.stage with
      | .confirming _ confirmation => some confirmation
      | _ => none
  | .removal _ => none

/-- Whether an operation has moved its data and waits for its job to report its
end. -/
def isSettling (op : Operation) : Bool :=
  (op.confirmation?.map (·.stage)) == some .settling

/-- Whether an operation has cancelled its poller and waits for it to stop. -/
def isJoining (op : Operation) : Bool :=
  (op.confirmation?.map (·.stage)) == some .joining

end Operation

end SnapshotEngine
