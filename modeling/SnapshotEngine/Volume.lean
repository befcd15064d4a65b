import SnapshotEngine.Job.Status
import SnapshotEngine.Table
import SnapshotEngine.Text.Blank

/-!
# Volumes, snapshots and claims

A volume is known by name, with the namespace of the claim that uses it and the
class of storage it was made from; beside these stand the backup it was last
given and what was last heard of its jobs.  A snapshot is a confirmed backup of
a volume.  A claim is what the cluster reports of a volume.
-/

namespace SnapshotEngine

/-- The kind of volume that snapshots can be restored into. -/
def volumeKind : String := "cstor-snapshot"

/-- The storage engine whose volumes are handled. -/
def engineName : String := "cstor"

/-- The label that names the storage engine of a volume. -/
def engineLabel : String := "openebs.io/cas-type"

/-- What is known of a volume. -/
structure Volume where
  name : String
  /-- The namespace of the claim that uses the volume. -/
  claimNamespace : String
  /-- The class of storage. -/
  casType : String
  /-- The backup it was last given, or nothing. -/
  backupName : String
  backupStatus : JobStatus
  restoreStatus : JobStatus
deriving DecidableEq, Repr, Inhabited

/-- A volume of which no job has been heard. -/
def Volume.fresh (name claimNamespace casType : String) : Volume where
  name := name
  claimNamespace := claimNamespace
  casType := casType
  backupName := ""
  backupStatus := .pending
  restoreStatus := .pending

/-- The fields of a snapshot. -/
inductive SnapshotField where
  | volumeId
  | backupName
  | claimNamespace
deriving DecidableEq, Repr, Inhabited

/-- What a field is called in messages. -/
def SnapshotField.label : SnapshotField → String
  | .volumeId => "volume_id"
  | .backupName => "backup_name"
  | .claimNamespace => "namespace"

/-- A backup of a volume, and the namespace of the claim that used it. -/
structure Snapshot where
  volumeId : String
  backupName : String
  claimNamespace : String
deriving DecidableEq, Repr, Inhabited

/-- The first field that is blank. -/
def Snapshot.missingField (s : Snapshot) : Option SnapshotField :=
  if Text.blank s.volumeId then some .volumeId
  else if Text.blank s.backupName then some .backupName
  else if Text.blank s.claimNamespace then some .claimNamespace
  else none

/-- No field is missing exactly when none is blank. -/
theorem Snapshot.missingField_eq_none_iff {s : Snapshot} :
    s.missingField = none ↔
      Text.blank s.volumeId = false ∧ Text.blank s.backupName = false ∧
        Text.blank s.claimNamespace = false := by
  unfold missingField
  split
  · simp_all
  split
  · simp_all
  split <;> simp_all

/-- The life of a claimed volume in the cluster. -/
inductive ClaimPhase where
  | available
  | bound
  | released
  | failed
  | pending
deriving DecidableEq, Repr

namespace ClaimPhase

instance : Inhabited ClaimPhase := ⟨.bound⟩

/-- The name of a phase. -/
def name : ClaimPhase → String
  | .available => "Available"
  | .bound => "Bound"
  | .released => "Released"
  | .failed => "Failed"
  | .pending => "Pending"

/-- All phases. -/
def all : List ClaimPhase := [.available, .bound, .released, .failed, .pending]

/-- The phase with the given name. -/
def named? (s : String) : Option ClaimPhase :=
  all.find? fun phase => phase.name == s

/-- A volume that was released or has failed is not to be backed up. -/
def isGone : ClaimPhase → Bool
  | .released | .failed => true
  | .available | .bound | .pending => false

end ClaimPhase

/-- What the cluster reports of a volume. -/
structure Claim where
  name : String
  storageClass : String
  /-- The namespace of the claim that uses the volume, if one does. -/
  claimNamespace : Option String
  labels : Table String String
  phase : ClaimPhase
deriving Inhabited

end SnapshotEngine
