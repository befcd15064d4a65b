import SnapshotEngine.Directory
import SnapshotEngine.Table

/-!
# A volume directory in memory

The directory of a rehearsal knows the namespaces of some claims.  It keeps
every definition it is asked to keep, and for a restore it provides the volume
that was set out for it, or else one named after the volume the backup was taken
of, in the namespace of that volume's claim.
-/

namespace SnapshotEngine

/-- A volume directory in memory. -/
structure MemoryDirectory where
  /-- The namespace of the claim of each volume. -/
  claims : Table String String
  preserved : List String
  provisioned : List (String × String)
  /-- The volume set out for the next restore. -/
  nextTarget : Option Volume
  preserveFails : Option DirectoryError
  provisionFails : Option DirectoryError
  /-- The volumes whose claims cannot be looked up, and why. -/
  lookupFails : Table String DirectoryError
deriving Inhabited

/-- What may be arranged with a directory. -/
inductive DirectoryCue where
  | addClaim (volumeId claimNamespace : String)
  | setTarget (volume : Volume)
  | failPreserve (error : DirectoryError)
  | failProvision (error : DirectoryError)
  | failLookup (volumeId : String) (error : DirectoryError)
deriving DecidableEq, Repr, Inhabited

namespace MemoryDirectory

/-- The directory that knows the given claims. -/
def ofClaims (claims : Table String String) : MemoryDirectory where
  claims := claims
  preserved := []
  provisioned := []
  nextTarget := none
  preserveFails := none
  provisionFails := none
  lookupFails := .empty

/-- The namespace of a volume whose claim is not known. -/
def defaultNamespace : String := "default"

/-- The class of storage of the volumes that are provided. -/
def providedClass : String := "openebs-cstor"

/-- Does as arranged. -/
def cue (d : MemoryDirectory) : DirectoryCue → MemoryDirectory
  | .addClaim volumeId claimNamespace =>
      { d with claims := d.claims.insert volumeId claimNamespace }
  | .setTarget volume => { d with nextTarget := some volume }
  | .failPreserve error => { d with preserveFails := some error }
  | .failProvision error => { d with provisionFails := some error }
  | .failLookup volumeId error =>
      { d with lookupFails := d.lookupFails.insert volumeId error }

/-- Keeps the definition of the claim that uses a volume. -/
def preserve (d : MemoryDirectory) (volume : Volume) :
    Except DirectoryError Unit × MemoryDirectory :=
  match d.preserveFails with
  | some error => (.error error, d)
  | none => (.ok (), { d with preserved := d.preserved ++ [volume.name] })

/-- The volume that is provided for a restore of a volume. -/
def target (d : MemoryDirectory) (volumeId : String) : Volume :=
  d.nextTarget.getD
    (.fresh (volumeId ++ "-restored") ((d.claims.get? volumeId).getD defaultNamespace)
      providedClass)

/-- Provides a fresh volume for the restore of a backup. -/
def provision (d : MemoryDirectory) (volumeId backupName : String) :
    Except DirectoryError Volume × MemoryDirectory :=
  match d.provisionFails with
  | some error => (.error error, d)
  | none =>
      let target := d.target volumeId
      (.ok target,
        { d with
          provisioned := d.provisioned ++ [(volumeId, backupName)]
          nextTarget := none
          claims := d.claims.insert target.name target.claimNamespace })

/-- Names the namespace of the claim that uses a volume. -/
def locate (d : MemoryDirectory) (volumeId : String) : Except DirectoryError String :=
  match d.lookupFails.get? volumeId with
  | some error => .error error
  | none =>
      match d.claims.get? volumeId with
      | some claimNamespace => .ok claimNamespace
      | none => .error (.notFound volumeId)

end MemoryDirectory

end SnapshotEngine
