import SnapshotEngine.Failure
import SnapshotEngine.Registry

/-!
# Discovering volumes

The cluster reports its volumes as claims.  A volume is taken on if the claim
names it, its storage class and the namespace of its user, if the claim is
labelled for this storage engine, and if the volume is not gone.  The first
claim that qualifies settles what is known of the volume: later ones change
nothing.
-/

namespace SnapshotEngine

/-- What a claim comes to. -/
inductive ClaimVerdict where
  /-- The volume is not one to be taken on. -/
  | ignored
  /-- It would be taken on, but it is gone. -/
  | gone
  | accepted (volume : Volume)
deriving DecidableEq, Repr, Inhabited

namespace Claim

/-- Whether a claim is labelled for this storage engine. -/
def isOurs (c : Claim) : Bool := c.labels.get? engineLabel == some engineName

/-- What a claim comes to, by itself. -/
def verdict (c : Claim) : ClaimVerdict :=
  if Text.blank c.name || Text.blank c.storageClass then .ignored
  else
    match c.claimNamespace.filter fun ns => !Text.blank ns with
    | none => .ignored
    | some ns =>
        if !c.isOurs then .ignored
        else if c.phase.isGone then .gone
        else .accepted (.fresh c.name ns c.storageClass)

end Claim

/-- Takes the volume of a claim on, if it qualifies; the name of the volume if
it does. -/
def discover (r : Registry) (c : Claim) : Except Failure (Option String) × Registry :=
  match c.verdict with
  | .ignored => (.ok none, r)
  | .gone => (.error (.invalidVolume c.name c.phase), r)
  | .accepted volume => (.ok (some c.name), r.insertIfAbsent volume)

/-- The kind of every volume; how fast it is, is not known of any. -/
def volumeInfo (_name : String) : String × Option Int := (volumeKind, none)

end SnapshotEngine
