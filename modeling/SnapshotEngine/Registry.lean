import SnapshotEngine.Volume

/-!
# The registry

The registry holds the volumes that are known, the snapshots that were
confirmed, and the names of the volumes that an operation is at work on.  All
operations share it, so it is also where they keep out of each other's way: an
operation takes the marker of its volume and nobody else gets that marker until
it is released.

Each operation on the registry touches one of the three parts; the lemmas say
what it does to every question that can be asked.

* `volume?_insert`, `volume?_insertIfAbsent`, `volume?_modify` — volumes;
* `snapshot?_removeSnapshot`, `removeSnapshot_eq_self` — snapshots;
* `inFlight_of_begin?`, `inFlight_release` — markers.
-/

namespace SnapshotEngine

/-- Volumes, confirmed snapshots, and the volumes that are being worked on. -/
structure Registry where
  volumes : Table String Volume
  snapshots : Table String Snapshot
  held : List String
deriving Inhabited, Repr

namespace Registry

/-- The registry that knows nothing. -/
def empty : Registry := ⟨.empty, .empty, []⟩

/-- The record of a volume. -/
def volume? (r : Registry) (name : String) : Option Volume := r.volumes.get? name

/-- Registers a volume under its own name, whether or not that name is taken. -/
def insert (r : Registry) (v : Volume) : Registry :=
  { r with volumes := r.volumes.insert v.name v }

/-- Registers a volume unless its name is taken. -/
def insertIfAbsent (r : Registry) (v : Volume) : Registry :=
  match r.volume? v.name with
  | some _ => r
  | none => r.insert v

/-- Changes the record of a volume, if it is known. -/
def modify (r : Registry) (name : String) (f : Volume → Volume) : Registry :=
  { r with volumes := r.volumes.modify name f }

/-- Notes the backup that a volume was given. -/
def setBackupName (r : Registry) (name backupName : String) : Registry :=
  r.modify name fun v => { v with backupName := backupName }

/-- Notes what was heard of the backup job of a volume. -/
def setBackupStatus (r : Registry) (name : String) (status : JobStatus) : Registry :=
  r.modify name fun v => { v with backupStatus := status }

/-- Notes what was heard of the restore job of a volume. -/
def setRestoreStatus (r : Registry) (name : String) (status : JobStatus) : Registry :=
  r.modify name fun v => { v with restoreStatus := status }

/-- What was last heard of the backup job of a volume. -/
def backupStatus? (r : Registry) (name : String) : Option JobStatus :=
  (r.volume? name).map (·.backupStatus)

/-- What was last heard of the restore job of a volume. -/
def restoreStatus? (r : Registry) (name : String) : Option JobStatus :=
  (r.volume? name).map (·.restoreStatus)

/-- The snapshot kept under an identifier. -/
def snapshot? (r : Registry) (id : String) : Option Snapshot := r.snapshots.get? id

/-- Keeps a snapshot under an identifier. -/
def insertSnapshot (r : Registry) (id : String) (s : Snapshot) : Registry :=
  { r with snapshots := r.snapshots.insert id s }

/-- Forgets the snapshot kept under an identifier. -/
def removeSnapshot (r : Registry) (id : String) : Registry :=
  { r with snapshots := r.snapshots.erase id }

/-- Whether an operation is at work on a volume. -/
def inFlight (r : Registry) (name : String) : Bool := r.held.contains name

/-- Takes the marker of a volume, unless an operation holds it. -/
def begin? (r : Registry) (name : String) : Option Registry :=
  if r.inFlight name then none else some { r with held := name :: r.held }

/-- Gives the marker of a volume back. -/
def release (r : Registry) (name : String) : Registry :=
  { r with held := r.held.filter (· ≠ name) }

/-- A volume is found under its own name after it was registered. -/
theorem volume?_insert (r : Registry) (v : Volume) (name : String) :
    (r.insert v).volume? name = if v.name = name then some v else r.volume? name :=
  Table.get?_insert r.volumes v.name name v

/-- A record that is there already stays. -/
theorem volume?_insertIfAbsent (r : Registry) (v : Volume) (name : String) :
    (r.insertIfAbsent v).volume? name =
      if v.name = name then some ((r.volume? name).getD v) else r.volume? name := by
  unfold insertIfAbsent
  split
  · rename_i old hold
    by_cases h : v.name = name
    · subst h
      simp [hold]
    · simp [h]
  · rename_i hnone
    rw [volume?_insert]
    by_cases h : v.name = name
    · subst h
      simp [hnone]
    · simp [h]

/-- A change reaches the record of its volume and no other. -/
theorem volume?_modify (r : Registry) (name other : String) (f : Volume → Volume) :
    (r.modify name f).volume? other =
      if name = other then (r.volume? other).map f else r.volume? other :=
  Table.get?_modify r.volumes name other f

/-- A snapshot that was forgotten is not found, and every other one is. -/
theorem snapshot?_removeSnapshot (r : Registry) (id other : String) :
    (r.removeSnapshot id).snapshot? other =
      if id = other then none else r.snapshot? other :=
  Table.get?_erase r.snapshots id other

/-- Nothing changes as an identifier without a snapshot is forgotten. -/
theorem removeSnapshot_eq_self {r : Registry} {id : String} (h : r.snapshot? id = none) :
    r.removeSnapshot id = r :=
  congrArg (fun snapshots => { r with snapshots := snapshots }) (Table.erase_eq_self h)

/-- The marker of a volume is to be had exactly while nobody holds it. -/
theorem begin?_eq_some_iff {r r' : Registry} {name : String} :
    r.begin? name = some r' ↔
      r.inFlight name = false ∧ r' = { r with held := name :: r.held } := by
  unfold begin?
  by_cases h : r.inFlight name <;> simp [h, eq_comm]

/-- Who has taken a marker holds it, and nobody else's marker has changed. -/
theorem inFlight_of_begin? {r r' : Registry} {name : String} (h : r.begin? name = some r')
    (other : String) : r'.inFlight other ↔ other = name ∨ r.inFlight other := by
  obtain ⟨_, rfl⟩ := begin?_eq_some_iff.1 h
  simp [inFlight]

/-- A marker that was given back is free, and nobody else's has changed. -/
theorem inFlight_release (r : Registry) (name other : String) :
    (r.release name).inFlight other ↔ other ≠ name ∧ r.inFlight other := by
  simp [inFlight, release, and_comm]

end Registry

end SnapshotEngine
