import SnapshotEngine.Poller

/-!
# What is noted of a job

A note on a job reaches one field of one record: the status of the kind of the
job, at the volume that the job works on.  Taking the marker of a volume for a
job puts that status back to pending and touches no other record.

* `volume?_record` — what a note does to every look-up;
* `statusOf_record` — what is then read of the job;
* `record_record` — a later note replaces an earlier one;
* `Takes` — what becomes of a registry in which the marker for a job is taken.
-/

namespace SnapshotEngine

namespace Volume

/-- What was last heard of the job of a kind. -/
def status (v : Volume) : JobKind → JobStatus
  | .backup => v.backupStatus
  | .restore => v.restoreStatus

/-- A volume with something heard of its job of a kind. -/
def withStatus (v : Volume) (kind : JobKind) (heard : JobStatus) : Volume :=
  match kind with
  | .backup => { v with backupStatus := heard }
  | .restore => { v with restoreStatus := heard }

@[simp] theorem status_withStatus (v : Volume) (kind : JobKind) (heard : JobStatus) :
    (v.withStatus kind heard).status kind = heard := by
  cases kind <;> rfl

end Volume

namespace Registry

/-- A note changes the status of the kind of its job, at the volume of its job. -/
theorem volume?_record (r : Registry) (job : JobHandle) (heard : JobStatus) (name : String) :
    (r.record job heard).volume? name =
      if job.volumeId = name then (r.volume? name).map (·.withStatus job.kind heard)
      else r.volume? name := by
  unfold record
  cases job.kind <;> exact volume?_modify r job.volumeId name _

/-- A note touches neither snapshots nor markers. -/
theorem snapshots_held_record (r : Registry) (job : JobHandle) (heard : JobStatus) :
    (r.record job heard).snapshots = r.snapshots ∧ (r.record job heard).held = r.held := by
  unfold record
  cases job.kind <;> exact ⟨rfl, rfl⟩

/-- A later note takes the place of an earlier one. -/
theorem record_record (r : Registry) (job : JobHandle) (earlier later : JobStatus) :
    (r.record job earlier).record job later = r.record job later := by
  unfold record
  cases job.kind with
  | backup => simp only [setBackupStatus, modify, Table.modify_modify]
  | restore => simp only [setRestoreStatus, modify, Table.modify_modify]

/-- What is read of a job is read of the record of its volume. -/
theorem statusOf_eq (r : Registry) (job : JobHandle) :
    r.statusOf job = ((r.volume? job.volumeId).map (·.status job.kind)).getD .pending := by
  unfold statusOf
  cases job.kind <;> rfl

theorem statusOf_of_volume? {r : Registry} {job : JobHandle} {v : Volume}
    (h : r.volume? job.volumeId = some v) : r.statusOf job = v.status job.kind := by
  rw [statusOf_eq, h]
  rfl

/-- What was noted of a job is read of it, if its volume is known. -/
theorem statusOf_record {r : Registry} {job : JobHandle} {v : Volume}
    (h : r.volume? job.volumeId = some v) (heard : JobStatus) :
    (r.record job heard).statusOf job = heard := by
  have hrecord : (r.record job heard).volume? job.volumeId =
      some (v.withStatus job.kind heard) := by
    rw [volume?_record, if_pos rfl, h]
    rfl
  rw [statusOf_of_volume? hrecord, Volume.status_withStatus]

/-- What is read of a job depends on the record of its volume only. -/
theorem statusOf_congr {r r' : Registry} {job : JobHandle}
    (h : r'.volume? job.volumeId = r.volume? job.volumeId) : r'.statusOf job = r.statusOf job := by
  rw [statusOf_eq, statusOf_eq, h]

/-- A marker is not to be had exactly while somebody holds it. -/
theorem begin?_eq_none_iff {r : Registry} {name : String} :
    r.begin? name = none ↔ r.inFlight name := by
  unfold begin?
  by_cases h : r.inFlight name <;> simp [h]

/-- Taking a marker touches neither volumes nor snapshots. -/
theorem volume?_snapshots_of_begin? {r held : Registry} {name : String}
    (h : r.begin? name = some held) :
    (∀ other, held.volume? other = r.volume? other) ∧ held.snapshots = r.snapshots := by
  obtain ⟨_, rfl⟩ := begin?_eq_some_iff.mp h
  exact ⟨fun _ => rfl, rfl⟩

/-- What becomes of a registry when the marker of the volume of a job is taken:
nobody held it, the volume is known afterwards and nothing was heard of the job,
and of an earlier record only the name and the status of the backup change. -/
structure Takes (r r' : Registry) (job : JobHandle) : Prop where
  free : r.inFlight job.volumeId = false
  inFlight : ∀ name, r'.inFlight name ↔ name = job.volumeId ∨ r.inFlight name
  known : ∃ v, r'.volume? job.volumeId = some v
  reset : r'.statusOf job = .pending
  others : ∀ name, name ≠ job.volumeId → r'.volume? name = r.volume? name
  earlier : ∀ v, r.volume? job.volumeId = some v →
    job.kind = .backup ∧
      r'.volume? job.volumeId = some { v with backupName := job.name, backupStatus := .pending }
  snapshots : r'.snapshots = r.snapshots

end Registry

end SnapshotEngine
