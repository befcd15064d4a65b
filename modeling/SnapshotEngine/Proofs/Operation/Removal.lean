import SnapshotEngine.Operation.Removal

/-!
# The steps of a removal

A removal takes no marker.  It leaves the registry alone until the object is
deleted, and then forgets the snapshot.

* `start_waits`, `start_ends` — how it starts;
* `goesOn_of_resume` — the steps after which it waits again;
* `ends_of_resume` — the steps with which it ends;
* `complete_of_start`, `GoesOn.complete` — nothing is missing where it deletes a backup.
-/

namespace SnapshotEngine

namespace Removal

/-- A snapshot of which nothing is missing is retracted. -/
theorem retract_waits {r r' : Registry} {settings : Settings} {snapshotId : String}
    {s : Snapshot} {d : Removal} (h : retract r settings snapshotId s = .waits r' d) :
    r' = r ∧ d = ⟨settings, snapshotId, .retracting s⟩ := by
  unfold retract at h
  split at h
  · cases h
  · cases h
    exact ⟨rfl, rfl⟩

/-- Whatever is retracted lacks nothing. -/
theorem complete_of_retract_waits {r r' : Registry} {settings : Settings} {snapshotId : String}
    {s : Snapshot} {d : Removal} (h : retract r settings snapshotId s = .waits r' d) :
    s.missingField = none := by
  unfold retract at h
  split at h
  · cases h
  · assumption

theorem retract_ends {r r' : Registry} {settings : Settings} {snapshotId : String}
    {s : Snapshot} {outcome : Outcome}
    (h : retract r settings snapshotId s = .ends r' outcome) :
    r' = r ∧ ∃ field, outcome = .error (.insufficientMetadata field) := by
  unfold retract at h
  split at h
  · cases h
    exact ⟨rfl, _, rfl⟩
  · cases h

/-- A removal starts with the snapshot that is kept, or with the parts of its
identifier. -/
theorem start_waits {r r' : Registry} {settings : Settings} {snapshotId : String}
    {d : Removal} (h : start r settings snapshotId = .waits r' d) :
    r' = r ∧ d.settings = settings ∧ d.snapshotId = snapshotId ∧
      ((∃ s, r.snapshot? snapshotId = some s ∧ d.stage = .retracting s) ∨
        ∃ volumeId backupName, SnapshotId.decode snapshotId = .ok (volumeId, backupName) ∧
          d.stage = .locating volumeId backupName) := by
  unfold start at h
  split at h
  · rename_i s hs
    obtain ⟨hr, rfl⟩ := retract_waits h
    exact ⟨hr, rfl, rfl, .inl ⟨s, hs, rfl⟩⟩
  · split at h
    · cases h
    · rename_i volumeId backupName hdecode
      cases h
      exact ⟨rfl, rfl, rfl, .inr ⟨volumeId, backupName, hdecode, rfl⟩⟩

/-- A removal that starts with a snapshot in hand starts with one that lacks nothing. -/
theorem complete_of_start {r r' : Registry} {settings : Settings} {snapshotId : String}
    {d : Removal} {s : Snapshot} (h : start r settings snapshotId = .waits r' d)
    (stage : d.stage = .retracting s) : s.missingField = none := by
  unfold start at h
  split at h
  · obtain ⟨_, rfl⟩ := retract_waits h
    cases stage
    exact complete_of_retract_waits h
  · split at h
    · cases h
    · cases h
      cases stage

/-- A removal that does not start leaves the registry as it was. -/
theorem start_ends {r r' : Registry} {settings : Settings} {snapshotId : String}
    {outcome : Outcome} (h : start r settings snapshotId = .ends r' outcome) :
    r' = r ∧ ∃ cause, outcome = .error cause ∧ cause.phase = .validation := by
  unfold start at h
  split at h
  · obtain ⟨hr, field, rfl⟩ := retract_ends h
    exact ⟨hr, _, rfl, rfl⟩
  · split at h
    · cases h
      exact ⟨rfl, _, rfl, rfl⟩
    · cases h

/-- The signals after which a removal waits again. -/
inductive GoesOn (d : Removal) : Signal → Removal → Prop where
  | located {volumeId backupName : String} {result : Except DirectoryError String}
      (stage : d.stage = .locating volumeId backupName) (claimNamespace : String)
      (complete : (Snapshot.mk volumeId backupName claimNamespace).missingField = none) :
      GoesOn d (.answered (.located result))
        { d with stage := .retracting ⟨volumeId, backupName, claimNamespace⟩ }
  | retracted {s : Snapshot} {result : Except ControlPlaneError Unit}
      (stage : d.stage = .retracting s) :
      GoesOn d (.answered (.retracted result)) { d with stage := .erasing s }

/-- A removal that goes on is still that of the same identifier. -/
theorem GoesOn.same {d d' : Removal} {signal : Signal} (h : d.GoesOn signal d') :
    d'.settings = d.settings ∧ d'.snapshotId = d.snapshotId := by
  cases h <;> exact ⟨rfl, rfl⟩

/-- A removal that goes on with a snapshot to retract goes on with one that lacks nothing. -/
theorem GoesOn.complete {d d' : Removal} {signal : Signal} {s : Snapshot}
    (h : d.GoesOn signal d') (stage : d'.stage = .retracting s) : s.missingField = none := by
  cases h with
  | located _ claimNamespace complete =>
      cases stage
      exact complete
  | retracted => cases stage

/-- The signals with which a removal ends. -/
inductive Ends (r : Registry) (d : Removal) : Signal → Registry → Outcome → Prop where
  | incomplete {volumeId backupName : String} {result : Except DirectoryError String}
      (stage : d.stage = .locating volumeId backupName) (field : SnapshotField) :
      Ends r d (.answered (.located result)) r (.error (.insufficientMetadata field))
  | unlocated {volumeId backupName : String} {cause : DirectoryError}
      (stage : d.stage = .locating volumeId backupName) :
      Ends r d (.answered (.located (.error cause))) r (.error (.volumeNotFound volumeId))
  | unretracted {s : Snapshot} {cause : ControlPlaneError} (stage : d.stage = .retracting s) :
      Ends r d (.answered (.retracted (.error cause))) r (.error (.ofControlPlane cause))
  | erased {s : Snapshot} (stage : d.stage = .erasing s) :
      Ends r d (.answered (.moved true)) (r.removeSnapshot d.snapshotId) (.ok .deleted)
  | unerased {s : Snapshot} (stage : d.stage = .erasing s) :
      Ends r d (.answered (.moved false)) r (.error (.remoteDeleteFailed (d.object s)))

/-- A snapshot that was made up is retracted, if nothing of it is missing. -/
theorem goesOn_or_ends_of_retract {r : Registry} {d : Removal} {volumeId backupName : String}
    {result : Except DirectoryError String} (stage : d.stage = .locating volumeId backupName)
    (claimNamespace : String) :
    (∃ d', retract r d.settings d.snapshotId ⟨volumeId, backupName, claimNamespace⟩ =
        .waits r d' ∧ d.GoesOn (.answered (.located result)) d') ∨
      ∃ r' outcome, retract r d.settings d.snapshotId ⟨volumeId, backupName, claimNamespace⟩ =
        .ends r' outcome ∧ d.Ends r (.answered (.located result)) r' outcome := by
  cases hretract : retract r d.settings d.snapshotId ⟨volumeId, backupName, claimNamespace⟩ with
  | waits r' d' =>
      have hcomplete := complete_of_retract_waits hretract
      obtain ⟨rfl, rfl⟩ := retract_waits hretract
      exact .inl ⟨_, rfl, .located stage claimNamespace hcomplete⟩
  | ends r' outcome =>
      obtain ⟨rfl, field, rfl⟩ := retract_ends hretract
      exact .inr ⟨_, _, rfl, .incomplete stage field⟩

/-- A signal that a removal waits for has it wait again or end, and while it
waits the registry stays as it is. -/
theorem goesOn_or_ends_of_resume {r : Registry} {d : Removal} {signal : Signal}
    {p : Progress Removal} (h : d.resume r signal = some p) :
    (∃ d', p = .waits r d' ∧ d.GoesOn signal d') ∨
      ∃ r' outcome, p = .ends r' outcome ∧ d.Ends r signal r' outcome := by
  unfold resume at h
  split at h
  · rename_i volumeId backupName result hstage
    split at h <;> cases h
    · exact goesOn_or_ends_of_retract hstage _
    · exact goesOn_or_ends_of_retract hstage ""
    · exact .inr ⟨_, _, rfl, .unlocated hstage⟩
  · rename_i s result hstage
    split at h
    · cases h
      exact .inl ⟨_, rfl, .retracted hstage⟩
    · split at h <;> cases h
      · exact .inl ⟨_, rfl, .retracted hstage⟩
      · exact .inr ⟨_, _, rfl, .unretracted hstage⟩
  · rename_i s done hstage
    cases done <;> cases h
    · exact .inr ⟨_, _, rfl, .unerased hstage⟩
    · exact .inr ⟨_, _, rfl, .erased hstage⟩
  · cases h

theorem goesOn_of_resume {r r' : Registry} {d d' : Removal} {signal : Signal}
    (h : d.resume r signal = some (.waits r' d')) : r' = r ∧ d.GoesOn signal d' := by
  rcases goesOn_or_ends_of_resume h with ⟨_, heq, hgoes⟩ | ⟨_, _, heq, _⟩
  · cases heq
    exact ⟨rfl, hgoes⟩
  · cases heq

theorem ends_of_resume {r r' : Registry} {d : Removal} {signal : Signal} {outcome : Outcome}
    (h : d.resume r signal = some (.ends r' outcome)) : d.Ends r signal r' outcome := by
  rcases goesOn_or_ends_of_resume h with ⟨_, heq, _⟩ | ⟨_, _, heq, hends⟩
  · cases heq
  · cases heq
    exact hends

/-- A volume that is in use has its snapshot made up, if nothing of it is missing. -/
theorem resume_located {d : Removal} {volumeId backupName claimNamespace : String}
    (stage : d.stage = .locating volumeId backupName)
    (complete : (Snapshot.mk volumeId backupName claimNamespace).missingField = none)
    (r : Registry) :
    d.resume r (.answered (.located (.ok claimNamespace))) =
      some (.waits r { d with stage := .retracting ⟨volumeId, backupName, claimNamespace⟩ }) := by
  simp [resume, stage, retract, complete]

/-- Without a snapshot to make up, the removal fails. -/
theorem resume_unlocated {d : Removal} {volumeId backupName : String}
    {result : Except DirectoryError String} (stage : d.stage = .locating volumeId backupName)
    (incomplete : ∀ claimNamespace, result = .ok claimNamespace →
      (Snapshot.mk volumeId backupName claimNamespace).missingField ≠ none) (r : Registry) :
    ∃ cause, d.resume r (.answered (.located result)) = some (.ends r (.error cause)) := by
  have hretract : ∀ claimNamespace,
      (Snapshot.mk volumeId backupName claimNamespace).missingField ≠ none → ∃ cause,
        retract r d.settings d.snapshotId ⟨volumeId, backupName, claimNamespace⟩ =
          .ends r (.error cause) := by
    intro claimNamespace hmissing
    obtain ⟨field, hfield⟩ := Option.ne_none_iff_exists'.mp hmissing
    exact ⟨.insufficientMetadata field, by simp [retract, hfield]⟩
  simp only [resume, stage]
  cases result with
  | ok claimNamespace =>
      obtain ⟨cause, hcause⟩ := hretract claimNamespace (incomplete _ rfl)
      exact ⟨cause, congrArg some hcause⟩
  | error cause =>
      cases cause with
      | unclaimed name =>
          have hblank : (Snapshot.mk volumeId backupName "").missingField ≠ none := by
            intro hnone
            cases (Snapshot.missingField_eq_none_iff.mp hnone).2.2
          obtain ⟨cause, hcause⟩ := hretract "" hblank
          exact ⟨cause, congrArg some hcause⟩
      | notFound name => exact ⟨_, rfl⟩
      | failed detail => exact ⟨_, rfl⟩

/-- The control plane has deleted a backup, or answers that there is none. -/
def Retracts (result : Except ControlPlaneError Unit) : Prop :=
  result = .ok () ∨ ∃ cause, result = .error cause ∧ cause.isNotFound

/-- A removal goes on to the object when the control plane has no such backup. -/
theorem retracts_of_resume {r r' : Registry} {d d' : Removal} {s : Snapshot}
    {result : Except ControlPlaneError Unit} (stage : d.stage = .retracting s)
    (h : d.resume r (.answered (.retracted result)) = some (.waits r' d')) :
    Retracts result := by
  simp only [resume, stage] at h
  split at h
  · exact .inl rfl
  · split at h
    · rename_i cause hfound
      exact .inr ⟨cause, rfl, hfound⟩
    · cases h

/-- Once the backup is gone, the object is to be deleted. -/
theorem resume_retracting {d : Removal} {s : Snapshot} {result : Except ControlPlaneError Unit}
    (stage : d.stage = .retracting s) (gone : Retracts result) (r : Registry) :
    d.resume r (.answered (.retracted result)) =
      some (.waits r { d with stage := .erasing s }) := by
  rcases gone with rfl | ⟨cause, rfl, hfound⟩
  · simp [resume, stage]
  · simp [resume, stage, hfound]

/-- Once the object is deleted, the snapshot is forgotten. -/
theorem resume_erasing {d : Removal} {s : Snapshot} (stage : d.stage = .erasing s)
    (r : Registry) :
    d.resume r (.answered (.moved true)) =
      some (.ends (r.removeSnapshot d.snapshotId) (.ok .deleted)) := by
  simp [resume, stage]

end Removal

end SnapshotEngine
