/-!
# Jobs that the control plane is asked for

A backup request names the volume, the series and the full name of the backup,
and the address that the data is sent to; a restore request names the volume to
fill, the backup, and the address that the data comes from.  The job that the
control plane makes of a request is named like the backup, and is asked after
by volume, name and namespace.
-/

namespace SnapshotEngine

/-- The two kinds of jobs. -/
inductive JobKind where
  | backup
  | restore
deriving DecidableEq, Repr, Inhabited

/-- What is needed to ask after a job. -/
structure JobHandle where
  kind : JobKind
  name : String
  volumeId : String
  claimNamespace : String
deriving DecidableEq, Repr, Inhabited

/-- A request to back a volume up. -/
structure BackupRequest where
  volumeId : String
  /-- The series that the backup belongs to. -/
  seriesName : String
  /-- The full name of the backup. -/
  backupName : String
  /-- The address that the data is sent to. -/
  destination : String
  claimNamespace : String
deriving DecidableEq, Repr, Inhabited

/-- A request to fill a volume from a backup. -/
structure RestoreRequest where
  volumeId : String
  backupName : String
  /-- The address that the data comes from. -/
  source : String
  claimNamespace : String
deriving DecidableEq, Repr, Inhabited

/-- The job that a backup request makes. -/
def BackupRequest.job (r : BackupRequest) : JobHandle where
  kind := .backup
  name := r.backupName
  volumeId := r.volumeId
  claimNamespace := r.claimNamespace

/-- The job that a restore request makes. -/
def RestoreRequest.job (r : RestoreRequest) : JobHandle where
  kind := .restore
  name := r.backupName
  volumeId := r.volumeId
  claimNamespace := r.claimNamespace

end SnapshotEngine
