import SnapshotEngine.Failure
import SnapshotEngine.Job.Request
import SnapshotEngine.Volume

/-!
# What an operation waits for

An operation works in steps.  Between two steps it waits: for the answer to a
call it has made of the directory, the control plane or the object store, for
its poller to stop, or for one of its two deadlines.  Whatever it waits for
reaches it as a signal; what it does then it does without interruption.
-/

namespace SnapshotEngine

/-- A call that an operation makes of the world around it. -/
inductive Call where
  /-- Keep the definition of the claim that uses a volume. -/
  | preserveClaim (volume : Volume)
  /-- Provide a fresh volume for the restore of a backup. -/
  | provision (volumeId backupName : String)
  /-- Name the namespace of the claim that uses a volume. -/
  | claimNamespace (volumeId : String)
  /-- Make a backup job. -/
  | createBackup (request : BackupRequest)
  /-- Make a restore job. -/
  | createRestore (request : RestoreRequest)
  /-- Delete a backup. -/
  | deleteBackup (volumeId backupName claimNamespace : String)
  /-- Upload, download or delete an object. -/
  | move (action : TransferAction) (object : String)
deriving DecidableEq, Repr, Inhabited

/-- The answer to a call. -/
inductive Answer where
  | preserved (result : Except DirectoryError Unit)
  | provisioned (result : Except DirectoryError Volume)
  | located (result : Except DirectoryError String)
  | accepted (result : Except ControlPlaneError JobHandle)
  | retracted (result : Except ControlPlaneError Unit)
  | moved (done : Bool)
deriving Repr, Inhabited

/-- What may wake an operation. -/
inductive Signal where
  /-- The call it made was answered. -/
  | answered (answer : Answer)
  /-- Its poller has stopped. -/
  | pollerExited
  /-- The time in which its job may report its end is over. -/
  | graceOver
  /-- The time it may take is over. -/
  | limitOver
deriving Repr, Inhabited

/-- What an operation that succeeds has to show. -/
inductive Success where
  /-- The identifier of the snapshot that a backup made. -/
  | backedUp (snapshotId : String)
  /-- The name of the volume that a restore filled. -/
  | restored (volumeId : String)
  | deleted
deriving DecidableEq, Repr, Inhabited

/-- How an operation ends. -/
abbrev Outcome := Except Failure Success

end SnapshotEngine
