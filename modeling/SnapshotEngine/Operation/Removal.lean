import SnapshotEngine.Operation.Progress
import SnapshotEngine.Settings

/-!
# Deleting a snapshot

A snapshot is deleted in the control plane, then its object in the store, and
only then is it forgotten.  A snapshot that the registry does not keep is made
up from its identifier and the namespace that the directory names for its
volume.  A control plane that knows no such backup is no obstacle.
-/

namespace SnapshotEngine

/-- Where a removal in progress stands. -/
inductive RemovalStage where
  /-- The namespace of the claim is being looked up. -/
  | locating (volumeId backupName : String)
  /-- The backup is being deleted in the control plane. -/
  | retracting (snapshot : Snapshot)
  /-- The object is being deleted. -/
  | erasing (snapshot : Snapshot)
deriving DecidableEq, Repr, Inhabited

/-- A removal in progress. -/
structure Removal where
  settings : Settings
  snapshotId : String
  stage : RemovalStage
deriving DecidableEq, Repr, Inhabited

namespace Removal

/-- The name of the object of a snapshot. -/
def object (d : Removal) (snapshot : Snapshot) : String :=
  d.settings.namer.objectName snapshot.volumeId snapshot.backupName

/-- The call that is waited for. -/
def call? (d : Removal) : Option Call :=
  match d.stage with
  | .locating volumeId _ => some (.claimNamespace volumeId)
  | .retracting snapshot =>
      some (.deleteBackup snapshot.volumeId snapshot.backupName snapshot.claimNamespace)
  | .erasing snapshot => some (.move .delete (d.object snapshot))

/-- Has a snapshot deleted in the control plane, if no field of it is
missing. -/
def retract (r : Registry) (settings : Settings) (snapshotId : String)
    (snapshot : Snapshot) : Progress Removal :=
  match snapshot.missingField with
  | some field => .ends r (.error (.insufficientMetadata field))
  | none =>
      .waits r
        { settings := settings, snapshotId := snapshotId, stage := .retracting snapshot }

/-- Starts a removal, of the snapshot that the registry keeps or of the one that
the identifier names. -/
def start (r : Registry) (settings : Settings) (snapshotId : String) : Progress Removal :=
  match r.snapshot? snapshotId with
  | some snapshot => retract r settings snapshotId snapshot
  | none =>
      match SnapshotId.decode snapshotId with
      | .error cause => .ends r (.error (.malformedIdentifier cause))
      | .ok (volumeId, backupName) =>
          .waits r
            { settings := settings
              snapshotId := snapshotId
              stage := .locating volumeId backupName }

/-- What a signal does; nothing if it is not waited for. -/
def resume (r : Registry) (d : Removal) (signal : Signal) : Option (Progress Removal) :=
  match d.stage, signal with
  | .locating volumeId backupName, .answered (.located result) =>
      match result with
      | .ok claimNamespace =>
          some (retract r d.settings d.snapshotId ⟨volumeId, backupName, claimNamespace⟩)
      | .error (.unclaimed _) =>
          some (retract r d.settings d.snapshotId ⟨volumeId, backupName, ""⟩)
      | .error _ => some (.ends r (.error (.volumeNotFound volumeId)))
  | .retracting snapshot, .answered (.retracted result) =>
      match result with
      | .ok () => some (.waits r { d with stage := .erasing snapshot })
      | .error cause =>
          if cause.isNotFound then some (.waits r { d with stage := .erasing snapshot })
          else some (.ends r (.error (.ofControlPlane cause)))
  | .erasing snapshot, .answered (.moved done) =>
      if done then some (.ends (r.removeSnapshot d.snapshotId) (.ok .deleted))
      else some (.ends r (.error (.remoteDeleteFailed (d.object snapshot))))
  | _, _ => none

end Removal

end SnapshotEngine
