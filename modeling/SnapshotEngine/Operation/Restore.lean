import SnapshotEngine.Operation.Confirmation
import SnapshotEngine.Operation.Progress
import SnapshotEngine.Poller
import SnapshotEngine.Settings

/-!
# Restoring a snapshot

A restore has the directory provide a fresh volume and fills it from the object
of the backup.  The volume must have a name and a namespace, nobody may be at
work on it, and it must be fresh indeed: neither the volume the backup was
taken of nor any other that is known.
-/

namespace SnapshotEngine

/-- Where a restore in progress stands. -/
inductive RestoreStage where
  /-- A fresh volume is being provided. -/
  | provisioning
  /-- The job is being ordered. -/
  | ordering (target : Volume)
  | confirming (target : Volume) (confirmation : Confirmation)
deriving DecidableEq, Repr, Inhabited

/-- A restore in progress. -/
structure Restore where
  settings : Settings
  /-- The volume that the backup was taken of. -/
  volumeId : String
  backupName : String
  stage : RestoreStage
deriving DecidableEq, Repr, Inhabited

namespace Restore

/-- The order for the job. -/
def request (t : Restore) (target : Volume) : RestoreRequest where
  volumeId := target.name
  backupName := t.backupName
  source := t.settings.serverAddr
  claimNamespace := target.claimNamespace

/-- The name of the object: that of the volume the backup was taken of. -/
def object (t : Restore) : String :=
  t.settings.namer.objectName t.volumeId t.backupName

/-- The call that is waited for. -/
def call? (t : Restore) : Option Call :=
  match t.stage with
  | .provisioning => some (.provision t.volumeId t.backupName)
  | .ordering target => some (.createRestore (t.request target))
  | .confirming _ confirmation => confirmation.call?

/-- Starts a restore: the kind of volume must be the one that can be restored
into, and the text must be an identifier. -/
def start (r : Registry) (settings : Settings) (snapshotId kind : String) :
    Progress Restore :=
  if kind ≠ volumeKind then .ends r (.error (.invalidVolumeKind kind))
  else
    match SnapshotId.decode snapshotId with
    | .error cause => .ends r (.error (.malformedIdentifier cause))
    | .ok (volumeId, backupName) =>
        .waits r
          { settings := settings
            volumeId := volumeId
            backupName := backupName
            stage := .provisioning }

/-- Takes a volume that was provided as the target, if it will do. -/
def target (r : Registry) (t : Restore) (provided : Volume) : Progress Restore :=
  if Text.blank provided.name then .ends r (.error (.insufficientMetadata .volumeId))
  else if Text.blank provided.claimNamespace then
    .ends r (.error (.insufficientMetadata .claimNamespace))
  else
    match r.begin? provided.name with
    | none => .ends r (.error (.operationInProgress provided.name))
    | some held =>
        if provided.name = t.volumeId ∨ (r.volume? provided.name).isSome then
          .ends r (.error (.restoreTargetConflict t.volumeId provided.name))
        else
          let target := { provided with restoreStatus := .pending }
          .waits (held.insert target) { t with stage := .ordering target }

/-- What was noted of the job decides. -/
def conclude (r : Registry) (target : Volume) (job : JobHandle) : Progress Restore :=
  let status := r.statusOf job
  if status.isSuccess then .ends r (.ok (.restored target.name))
  else .ends r (.error (.restoreNotConfirmed target.name status))

/-- What a signal does; nothing if it is not waited for. -/
def resume (r : Registry) (t : Restore) (signal : Signal) : Option (Progress Restore) :=
  match t.stage, signal with
  | .provisioning, .answered (.provisioned (.error cause)) =>
      some (.ends r (.error (.provisionFailed t.volumeId cause)))
  | .provisioning, .answered (.provisioned (.ok provided)) => some (t.target r provided)
  | .ordering _, .answered (.accepted (.error cause)) =>
      some (.ends r (.error (.ofControlPlane cause)))
  | .ordering target, .answered (.accepted (.ok job)) =>
      some (.waits r { t with stage := .confirming target (.start job .download t.object) })
  | .confirming target confirmation, signal =>
      (confirmation.advance signal).map fun
        | .continues next => .waits r { t with stage := .confirming target next }
        | .settled => conclude r target confirmation.job
        | .failed cause => .ends r (.error (.transferFailed cause))
        | .timedOut =>
            .ends r (.error
              (.timeout confirmation.job.volumeId t.settings.operationTimeout))
  | _, _ => none

end Restore

end SnapshotEngine
