import SnapshotEngine.Volume

/-!
# The volume directory

The cluster owns the volumes and their claims.  Three things are asked of it:
to keep the definition of a claim beside a backup, to provide a fresh volume
for a restore, and to name the namespace of the claim that uses a volume.
-/

namespace SnapshotEngine

/-- Why the directory did not do as asked. -/
inductive DirectoryError where
  | notFound (volumeId : String)
  | unclaimed (volumeId : String)
  | failed (detail : String)
deriving DecidableEq, Repr, Inhabited

/-- The message of a directory error. -/
def DirectoryError.message : DirectoryError → String
  | .notFound volumeId => "volume " ++ volumeId ++ " not found"
  | .unclaimed volumeId => "volume " ++ volumeId ++ " has no bound claim"
  | .failed detail => "volume directory failed: " ++ detail

end SnapshotEngine
