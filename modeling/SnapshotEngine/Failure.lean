import SnapshotEngine.ControlPlane.Error
import SnapshotEngine.Directory
import SnapshotEngine.Duration
import SnapshotEngine.Identifier
import SnapshotEngine.Text.Quoted
import SnapshotEngine.Transfer

/-!
# Why an operation failed

Every failure belongs to the phase that the operation had reached: checks and
look-ups before anything happens elsewhere, commands to the cluster and the
control plane, the transfer of the data, its confirmation by the control plane,
and the clean-up of the object store.
-/

namespace SnapshotEngine

/-- How far an operation got. -/
inductive Phase where
  | validation
  | command
  | transfer
  | confirmation
  | cleanup
deriving DecidableEq, Repr, Inhabited

/-- The name of a phase. -/
def Phase.name : Phase → String
  | .validation => "validation"
  | .command => "command"
  | .transfer => "transfer"
  | .confirmation => "confirmation"
  | .cleanup => "cleanup"

/-- Why an operation failed. -/
inductive Failure where
  | volumeNotFound (volumeId : String)
  | invalidBackupName (backupName : String)
  | invalidVolumeKind (kind : String)
  | malformedIdentifier (cause : IdentifierError)
  | insufficientMetadata (field : SnapshotField)
  | invalidVolume (volumeId : String) (phase : ClaimPhase)
  | operationInProgress (volumeId : String)
  | claimBackupFailed (volumeId : String) (cause : DirectoryError)
  | provisionFailed (volumeId : String) (cause : DirectoryError)
  | restoreTargetConflict (volumeId target : String)
  | controlPlaneUnreachable (detail : String)
  | controlPlaneRejected (code : Nat) (body : String)
  | controlPlaneUndecodable (detail : String)
  | transferFailed (cause : TransferError)
  | timeout (volumeId : String) (limit : Duration)
  | backupNotConfirmed (volumeId : String) (status : JobStatus) (object : String)
  | restoreNotConfirmed (volumeId : String) (status : JobStatus)
  | remoteDeleteFailed (object : String)
deriving DecidableEq, Repr, Inhabited

namespace Failure

/-- The phase that a failure belongs to. -/
def phase : Failure → Phase
  | .volumeNotFound _ | .invalidBackupName _ | .invalidVolumeKind _
  | .malformedIdentifier _ | .insufficientMetadata _ | .invalidVolume _ _
  | .operationInProgress _ => .validation
  | .claimBackupFailed _ _ | .provisionFailed _ _ | .restoreTargetConflict _ _
  | .controlPlaneUnreachable _ | .controlPlaneRejected _ _
  | .controlPlaneUndecodable _ => .command
  | .transferFailed _ | .timeout _ _ => .transfer
  | .backupNotConfirmed _ _ _ | .restoreNotConfirmed _ _ => .confirmation
  | .remoteDeleteFailed _ => .cleanup

/-- The message of a failure. -/
def message : Failure → String
  | .volumeNotFound volumeId => "volume " ++ volumeId ++ " is not known to the engine"
  | .invalidBackupName backupName =>
      "backup name " ++ Text.quote backupName ++ " is not usable"
  | .invalidVolumeKind kind => "volume kind " ++ Text.quote kind ++ " is not supported"
  | .malformedIdentifier cause => cause.message
  | .insufficientMetadata field => "snapshot metadata is missing " ++ field.label
  | .invalidVolume volumeId phase => "volume " ++ volumeId ++ " is in phase " ++ phase.name
  | .operationInProgress volumeId =>
      "another operation is in progress on volume " ++ volumeId
  | .claimBackupFailed volumeId cause =>
      "failed to preserve claim of volume " ++ volumeId ++ ": " ++ cause.message
  | .provisionFailed volumeId cause =>
      "failed to provision restore target for volume " ++ volumeId ++ ": " ++ cause.message
  | .restoreTargetConflict volumeId target =>
      "restore target " ++ target ++ " for volume " ++ volumeId ++ " is already a known volume"
  | .controlPlaneUnreachable detail => (ControlPlaneError.unreachable detail).message
  | .controlPlaneRejected code body => (ControlPlaneError.rejected code body).message
  | .controlPlaneUndecodable detail => (ControlPlaneError.undecodable detail).message
  | .transferFailed cause => cause.message
  | .timeout volumeId limit =>
      "operation on volume " ++ volumeId ++ " timed out after " ++ limit.text
  | .backupNotConfirmed volumeId status object =>
      "backup of volume " ++ volumeId ++ " ended with status " ++ status.name ++ "; object "
        ++ object ++ " left in place"
  | .restoreNotConfirmed volumeId status =>
      "restore into volume " ++ volumeId ++ " ended with status " ++ status.name
  | .remoteDeleteFailed object => "failed to delete remote object " ++ object

/-- The message of the failure behind a failure, where there is one that the
message itself does not already give in full. -/
def causeMessage? : Failure → Option String
  | .claimBackupFailed _ cause | .provisionFailed _ cause => some cause.message
  | _ => none

/-- What a control plane error comes to for an operation. -/
def ofControlPlane : ControlPlaneError → Failure
  | .unreachable detail | .unusableClient detail => .controlPlaneUnreachable detail
  | .rejected code body => .controlPlaneRejected code body
  | .undecodable detail => .controlPlaneUndecodable detail

/-- A control plane error belongs to the command phase. -/
theorem phase_ofControlPlane (e : ControlPlaneError) : (ofControlPlane e).phase = .command := by
  cases e <;> rfl

end Failure

end SnapshotEngine
