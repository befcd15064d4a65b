import SnapshotEngine.Operation.Backup
import SnapshotEngine.Proofs.Registry.Record

/-!
# The steps of a backup

A backup takes the marker of its volume as it starts and leaves the registry
alone from then on, until it ends well and keeps its snapshot.

* `start_waits`, `start_ends` — how it starts;
* `goesOn_of_resume` — the steps after which it waits again;
* `ends_of_resume` — the steps with which it ends.
-/

namespace SnapshotEngine

namespace Backup

/-- A backup starts with the marker of its volume and a status that is pending. -/
theorem start_waits {r r' : Registry} {settings : Settings} {volumeId backupName : String}
    {b : Backup} (h : start r settings volumeId backupName = .waits r' b) :
    r.Takes r' b.request.job ∧ b.settings = settings ∧ b.volumeId = volumeId ∧
      b.backupName = backupName ∧ SnapshotId.encode volumeId backupName = .ok b.snapshotId ∧
      ∃ v, b.stage = .preserving v := by
  unfold start at h
  split at h
  · cases h
  rename_i record hrecord
  split at h
  · cases h
  split at h
  · cases h
  rename_i snapshotId hid
  split at h
  · cases h
  rename_i held hheld
  cases h
  obtain ⟨hvolume?, hsnapshots⟩ := Registry.volume?_snapshots_of_begin? hheld
  have hlookup : ∀ name, ((held.setBackupName volumeId backupName).setBackupStatus volumeId
      .pending).volume? name =
        if volumeId = name then
          (r.volume? name).map
            fun v => { v with backupName := backupName, backupStatus := .pending }
        else r.volume? name := by
    intro name
    unfold Registry.setBackupName Registry.setBackupStatus
    rw [Registry.volume?_modify, Registry.volume?_modify, hvolume?]
    split
    · cases r.volume? name <;> rfl
    · rfl
  have hfound : ∀ v, r.volume? volumeId = some v →
      ((held.setBackupName volumeId backupName).setBackupStatus volumeId .pending).volume?
        volumeId = some { v with backupName := backupName, backupStatus := .pending } := by
    intro v hv
    rw [hlookup, if_pos rfl, hv]
    rfl
  refine ⟨?_, rfl, rfl, rfl, hid, _, rfl⟩
  refine ⟨(Registry.begin?_eq_some_iff.mp hheld).1,
    fun name => Registry.inFlight_of_begin? hheld name, ⟨_, hfound record hrecord⟩, ?_, ?_,
    fun v hv => ⟨rfl, hfound v hv⟩, hsnapshots⟩
  · rw [Registry.statusOf_of_volume? (hfound record hrecord)]
    rfl
  · intro name hname
    rw [hlookup, if_neg (fun heq => hname heq.symm)]

/-- A backup of a known volume that nobody is at work on starts, under a name that is of
use. -/
theorem exists_start_waits {r : Registry} (settings : Settings)
    {volumeId backupName snapshotId : String} {record : Volume}
    (known : r.volume? volumeId = some record) (named : Text.blank backupName = false)
    (encodes : SnapshotId.encode volumeId backupName = .ok snapshotId)
    (idle : r.inFlight volumeId = false) :
    ∃ r' b, start r settings volumeId backupName = .waits r' b := by
  have hbegin : r.begin? volumeId = some { r with held := volumeId :: r.held } := by
    simp [Registry.begin?, idle]
  simp only [start, known, named, encodes, hbegin, Bool.false_eq_true, if_false]
  exact ⟨_, _, rfl⟩

/-- A backup goes by the namespace that its volume is known with. -/
theorem start_claimNamespace {r r' : Registry} {settings : Settings}
    {volumeId backupName : String} {b : Backup}
    (h : start r settings volumeId backupName = .waits r' b) :
    ∃ v, r.volume? b.volumeId = some v ∧ v.claimNamespace = b.claimNamespace := by
  unfold start at h
  split at h
  · cases h
  rename_i record hrecord
  split at h
  · cases h
  split at h
  · cases h
  split at h
  · cases h
  · cases h
    exact ⟨record, hrecord, rfl⟩

/-- A backup starts only under a name that is not blank. -/
theorem start_usable {r r' : Registry} {settings : Settings} {volumeId backupName : String}
    {b : Backup} (h : start r settings volumeId backupName = .waits r' b) :
    Text.blank b.backupName = false := by
  unfold start at h
  split at h
  · cases h
  split at h
  · cases h
  rename_i husable
  split at h
  · cases h
  split at h
  · cases h
  · cases h
    exact eq_false_of_ne_true husable

/-- A backup that does not start leaves the registry as it was. -/
theorem start_ends {r r' : Registry} {settings : Settings} {volumeId backupName : String}
    {outcome : Outcome} (h : start r settings volumeId backupName = .ends r' outcome) :
    r' = r ∧ ∃ cause, outcome = .error cause ∧ cause.phase = .validation := by
  unfold start at h
  split at h
  · cases h
    exact ⟨rfl, _, rfl, rfl⟩
  split at h
  · cases h
    exact ⟨rfl, _, rfl, rfl⟩
  split at h
  · cases h
    exact ⟨rfl, _, rfl, rfl⟩
  split at h
  · cases h
    exact ⟨rfl, _, rfl, rfl⟩
  · cases h

/-- A backup finds its marker taken when all else was in order. -/
theorem start_inProgress_iff {r r' : Registry} {settings : Settings}
    {volumeId backupName name : String} :
    start r settings volumeId backupName = .ends r' (.error (.operationInProgress name)) ↔
      r' = r ∧ name = volumeId ∧ r.inFlight volumeId ∧ (∃ v, r.volume? volumeId = some v) ∧
        Text.blank backupName = false ∧
          ∃ snapshotId, SnapshotId.encode volumeId backupName = .ok snapshotId := by
  constructor
  · intro h
    unfold start at h
    split at h
    · cases h
    rename_i record hrecord
    split at h
    · cases h
    rename_i husable
    split at h
    · cases h
    rename_i snapshotId hid
    split at h
    · rename_i htaken
      cases h
      exact ⟨rfl, rfl, Registry.begin?_eq_none_iff.mp htaken, ⟨record, hrecord⟩,
        eq_false_of_ne_true husable, snapshotId, hid⟩
    · cases h
  · rintro ⟨rfl, rfl, hin, ⟨v, hv⟩, husable, snapshotId, hid⟩
    have htaken := Registry.begin?_eq_none_iff.mpr hin
    simp [start, hv, husable, hid, htaken]

/-- The signals after which a backup waits again. -/
inductive GoesOn (b : Backup) : Signal → Backup → Prop where
  | preserved {v : Volume} (stage : b.stage = .preserving v) :
      GoesOn b (.answered (.preserved (.ok ()))) { b with stage := .ordering }
  | accepted {job : JobHandle} (stage : b.stage = .ordering) :
      GoesOn b (.answered (.accepted (.ok job)))
        { b with stage := .confirming (.start job .upload b.object) }
  | continued {c c' : Confirmation} {signal : Signal} (stage : b.stage = .confirming c)
      (advance : c.advance signal = some (.continues c')) :
      GoesOn b signal { b with stage := .confirming c' }

/-- A backup that goes on is still that of the same snapshot. -/
theorem GoesOn.same {b b' : Backup} {signal : Signal} (h : b.GoesOn signal b') :
    b'.settings = b.settings ∧ b'.snapshot = b.snapshot ∧ b'.snapshotId = b.snapshotId := by
  cases h <;> exact ⟨rfl, rfl, rfl⟩

/-- The signals with which a backup ends. -/
inductive Ends (r : Registry) (b : Backup) : Signal → Registry → Outcome → Prop where
  | unpreserved {v : Volume} {cause : DirectoryError} (stage : b.stage = .preserving v) :
      Ends r b (.answered (.preserved (.error cause))) r
        (.error (.claimBackupFailed b.volumeId cause))
  | refused {cause : ControlPlaneError} (stage : b.stage = .ordering) :
      Ends r b (.answered (.accepted (.error cause))) r (.error (.ofControlPlane cause))
  | failed {c : Confirmation} {signal : Signal} {cause : TransferError}
      (stage : b.stage = .confirming c) (advance : c.advance signal = some (.failed cause)) :
      Ends r b signal r (.error (.transferFailed cause))
  | timedOut {c : Confirmation} {signal : Signal} (stage : b.stage = .confirming c)
      (advance : c.advance signal = some .timedOut) :
      Ends r b signal r (.error (.timeout c.job.volumeId b.settings.operationTimeout))
  | unconfirmed {c : Confirmation} {signal : Signal} (stage : b.stage = .confirming c)
      (advance : c.advance signal = some .settled) (status : r.statusOf c.job ≠ .done) :
      Ends r b signal r
        (.error (.backupNotConfirmed b.volumeId (r.statusOf c.job) b.object))
  | confirmed {c : Confirmation} {signal : Signal} (stage : b.stage = .confirming c)
      (advance : c.advance signal = some .settled) (status : r.statusOf c.job = .done) :
      Ends r b signal (r.insertSnapshot b.snapshotId b.snapshot) (.ok (.backedUp b.snapshotId))

/-- What was noted of the job decides whether there is a snapshot. -/
theorem ends_of_conclude {r : Registry} {b : Backup} {c : Confirmation} {signal : Signal}
    (stage : b.stage = .confirming c) (advance : c.advance signal = some .settled) :
    ∃ r' outcome, b.conclude r c.job = .ends r' outcome ∧ Ends r b signal r' outcome := by
  rcases (r.statusOf c.job).ite_isSuccess _ _ with ⟨hdone, hends⟩ | ⟨hother, hends⟩
  · exact ⟨_, _, hends, .confirmed stage advance hdone⟩
  · exact ⟨_, _, hends, .unconfirmed stage advance hother⟩

/-- A signal that a backup waits for has it wait again or end, and while it
waits the registry stays as it is. -/
theorem goesOn_or_ends_of_resume {r : Registry} {b : Backup} {signal : Signal}
    {p : Progress Backup} (h : b.resume r signal = some p) :
    (∃ b', p = .waits r b' ∧ b.GoesOn signal b') ∨
      ∃ r' outcome, p = .ends r' outcome ∧ b.Ends r signal r' outcome := by
  unfold resume at h
  split at h
  · rename_i v cause hstage
    cases h
    exact .inr ⟨_, _, rfl, .unpreserved hstage⟩
  · rename_i v hstage
    cases h
    exact .inl ⟨_, rfl, .preserved hstage⟩
  · rename_i cause hstage
    cases h
    exact .inr ⟨_, _, rfl, .refused hstage⟩
  · rename_i job hstage
    cases h
    exact .inl ⟨_, rfl, .accepted hstage⟩
  · rename_i c hstage
    obtain ⟨verdict, hverdict, rfl⟩ := Option.map_eq_some_iff.mp h
    cases verdict with
    | continues c' => exact .inl ⟨_, rfl, .continued hstage hverdict⟩
    | settled => exact .inr (ends_of_conclude hstage hverdict)
    | failed cause => exact .inr ⟨_, _, rfl, .failed hstage hverdict⟩
    | timedOut => exact .inr ⟨_, _, rfl, .timedOut hstage hverdict⟩
  · cases h

theorem goesOn_of_resume {r r' : Registry} {b b' : Backup} {signal : Signal}
    (h : b.resume r signal = some (.waits r' b')) : r' = r ∧ b.GoesOn signal b' := by
  rcases goesOn_or_ends_of_resume h with ⟨_, heq, hgoes⟩ | ⟨_, _, heq, _⟩
  · cases heq
    exact ⟨rfl, hgoes⟩
  · cases heq

theorem ends_of_resume {r r' : Registry} {b : Backup} {signal : Signal} {outcome : Outcome}
    (h : b.resume r signal = some (.ends r' outcome)) : b.Ends r signal r' outcome := by
  rcases goesOn_or_ends_of_resume h with ⟨_, heq, _⟩ | ⟨_, _, heq, hends⟩
  · cases heq
  · cases heq
    exact hends

end Backup

end SnapshotEngine
