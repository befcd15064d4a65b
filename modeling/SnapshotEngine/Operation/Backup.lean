import SnapshotEngine.Operation.Confirmation
import SnapshotEngine.Operation.Progress
import SnapshotEngine.Poller
import SnapshotEngine.Settings

/-!
# Backing a volume up

A backup is checked, takes the marker of its volume and resets what the
registry says of the volume's backup; then it has the claim kept, orders the
job, and uploads the data while the job is asked after.  Only a job that is
done makes a snapshot; the object of any other stays where it is.
-/

namespace SnapshotEngine

/-- Where a backup in progress stands. -/
inductive BackupStage where
  /-- The definition of the claim is being kept. -/
  | preserving (volume : Volume)
  /-- The job is being ordered. -/
  | ordering
  | confirming (confirmation : Confirmation)
deriving DecidableEq, Repr, Inhabited

/-- A backup in progress. -/
structure Backup where
  settings : Settings
  volumeId : String
  backupName : String
  /-- The identifier of the snapshot it is to make. -/
  snapshotId : String
  /-- The namespace in which the volume was known when it started. -/
  claimNamespace : String
  stage : BackupStage
deriving DecidableEq, Repr, Inhabited

namespace Backup

/-- The order for the job. -/
def request (b : Backup) : BackupRequest where
  volumeId := b.volumeId
  seriesName := SnapshotEngine.seriesName b.backupName
  backupName := b.backupName
  destination := b.settings.serverAddr
  claimNamespace := b.claimNamespace

/-- The name of the object. -/
def object (b : Backup) : String :=
  b.settings.namer.objectName b.volumeId b.backupName

/-- The snapshot it is to make. -/
def snapshot (b : Backup) : Snapshot where
  volumeId := b.volumeId
  backupName := b.backupName
  claimNamespace := b.claimNamespace

/-- The call that is waited for. -/
def call? (b : Backup) : Option Call :=
  match b.stage with
  | .preserving volume => some (.preserveClaim volume)
  | .ordering => some (.createBackup b.request)
  | .confirming confirmation => confirmation.call?

/-- Starts a backup: the volume must be known, the backup name must not be
blank, the two must make an identifier, and nobody else may be at work on the
volume. -/
def start (r : Registry) (settings : Settings) (volumeId backupName : String) :
    Progress Backup :=
  match r.volume? volumeId with
  | none => .ends r (.error (.volumeNotFound volumeId))
  | some record =>
      if Text.blank backupName then .ends r (.error (.invalidBackupName backupName))
      else
        match SnapshotId.encode volumeId backupName with
        | .error cause => .ends r (.error (.malformedIdentifier cause))
        | .ok snapshotId =>
            match r.begin? volumeId with
            | none => .ends r (.error (.operationInProgress volumeId))
            | some held =>
                .waits
                  ((held.setBackupName volumeId backupName).setBackupStatus volumeId .pending)
                  { settings := settings
                    volumeId := volumeId
                    backupName := backupName
                    snapshotId := snapshotId
                    claimNamespace := record.claimNamespace
                    stage := .preserving { record with backupName := backupName } }

/-- What was noted of the job decides: done makes a snapshot. -/
def conclude (r : Registry) (b : Backup) (job : JobHandle) : Progress Backup :=
  let status := r.statusOf job
  if status.isSuccess then
    .ends (r.insertSnapshot b.snapshotId b.snapshot) (.ok (.backedUp b.snapshotId))
  else .ends r (.error (.backupNotConfirmed b.volumeId status b.object))

/-- What a signal does; nothing if it is not waited for. -/
def resume (r : Registry) (b : Backup) (signal : Signal) : Option (Progress Backup) :=
  match b.stage, signal with
  | .preserving _, .answered (.preserved (.error cause)) =>
      some (.ends r (.error (.claimBackupFailed b.volumeId cause)))
  | .preserving _, .answered (.preserved (.ok ())) =>
      some (.waits r { b with stage := .ordering })
  | .ordering, .answered (.accepted (.error cause)) =>
      some (.ends r (.error (.ofControlPlane cause)))
  | .ordering, .answered (.accepted (.ok job)) =>
      some (.waits r { b with stage := .confirming (.start job .upload b.object) })
  | .confirming confirmation, signal =>
      (confirmation.advance signal).map fun
        | .continues next => .waits r { b with stage := .confirming next }
        | .settled => b.conclude r confirmation.job
        | .failed cause => .ends r (.error (.transferFailed cause))
        | .timedOut =>
            .ends r (.error
              (.timeout confirmation.job.volumeId b.settings.operationTimeout))
  | _, _ => none

end Backup

end SnapshotEngine
