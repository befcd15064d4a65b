import SnapshotEngine.Operation.Restore
import SnapshotEngine.Proofs.Registry.Record

/-!
# The steps of a restore

A restore starts without a marker.  It takes one when a volume was provided that
will do, and that volume is not known before; every other step leaves the
registry alone.

* `start_waits`, `start_ends` — how it starts;
* `target_waits`, `target_ends` — what becomes of a volume that was provided;
* `target_registers`, `target_refuses`, `target_of_known`, `MayFill` — which volumes will do;
* `goesOn_of_resume` — the steps after which it waits again;
* `ends_of_resume` — the steps with which it ends.
-/

namespace SnapshotEngine

namespace Restore

/-- A restore starts with the parts of its identifier. -/
theorem start_waits {r r' : Registry} {settings : Settings} {snapshotId kind : String}
    {t : Restore} (h : start r settings snapshotId kind = .waits r' t) :
    r' = r ∧ t.settings = settings ∧ t.stage = .provisioning ∧
      SnapshotId.decode snapshotId = .ok (t.volumeId, t.backupName) := by
  unfold start at h
  split at h
  · cases h
  split at h
  · cases h
  · rename_i volumeId backupName hdecode
    cases h
    exact ⟨rfl, rfl, rfl, hdecode⟩

/-- A restore of whatever an identifier names starts, and has a volume provided first. -/
theorem start_of_decode (r : Registry) (settings : Settings) {snapshotId volumeId backupName : String}
    (decodes : SnapshotId.decode snapshotId = .ok (volumeId, backupName)) :
    start r settings snapshotId volumeKind =
      .waits r ⟨settings, volumeId, backupName, .provisioning⟩ := by
  simp [start, decodes]

/-- A restore that does not start leaves the registry as it was. -/
theorem start_ends {r r' : Registry} {settings : Settings} {snapshotId kind : String}
    {outcome : Outcome} (h : start r settings snapshotId kind = .ends r' outcome) :
    r' = r ∧ ∃ cause, outcome = .error cause ∧ cause.phase = .validation := by
  unfold start at h
  split at h
  · cases h
    exact ⟨rfl, _, rfl, rfl⟩
  split at h
  · cases h
    exact ⟨rfl, _, rfl, rfl⟩
  · cases h

/-- A restore that does not start was ordered for another kind of volume, or its text is
no identifier. -/
theorem start_refuses {r r' : Registry} {settings : Settings} {snapshotId kind : String}
    {cause : Failure} (h : start r settings snapshotId kind = .ends r' (.error cause)) :
    cause = .invalidVolumeKind kind ∨ ∃ error, cause = .malformedIdentifier error := by
  unfold start at h
  split at h
  · cases h
    exact .inl rfl
  split at h
  · cases h
    exact .inr ⟨_, rfl⟩
  · cases h

/-- A volume that will do is registered with its marker taken. -/
theorem target_waits {r r' : Registry} {t t' : Restore} {provided : Volume}
    (h : t.target r provided = .waits r' t') :
    r.volume? provided.name = none ∧
      t' = { t with stage := .ordering { provided with restoreStatus := .pending } } ∧
      r.Takes r' (t.request { provided with restoreStatus := .pending }).job := by
  unfold target at h
  split at h
  · cases h
  split at h
  · cases h
  split at h
  · cases h
  rename_i held hheld
  split at h
  · cases h
  rename_i hfresh
  cases h
  have hunknown : r.volume? provided.name = none := by
    cases hvolume : r.volume? provided.name with
    | none => rfl
    | some v => exact absurd (.inr (by rw [hvolume]; rfl)) hfresh
  obtain ⟨hvolume?, hsnapshots⟩ := Registry.volume?_snapshots_of_begin? hheld
  have hfound : (held.insert { provided with restoreStatus := .pending }).volume? provided.name =
      some { provided with restoreStatus := .pending } := by
    rw [Registry.volume?_insert, if_pos rfl]
  refine ⟨hunknown, rfl, ?_⟩
  refine ⟨(Registry.begin?_eq_some_iff.mp hheld).1,
    fun name => Registry.inFlight_of_begin? hheld name, ⟨_, hfound⟩, ?_, ?_, ?_, hsnapshots⟩
  · rw [Registry.statusOf_of_volume? hfound]
    rfl
  · intro name hname
    rw [Registry.volume?_insert, if_neg (fun heq => hname heq.symm), hvolume?]
  · intro v hv
    exact absurd (hunknown.symm.trans hv) (by simp)

/-- A volume that will do has a name and a namespace and is not the one that the
backup was taken of; its record is the one that was provided, with a restore that is
still to come. -/
theorem target_registers {r r' : Registry} {t t' : Restore} {provided : Volume}
    (h : t.target r provided = .waits r' t') :
    Text.blank provided.name = false ∧ Text.blank provided.claimNamespace = false ∧
      provided.name ≠ t.volumeId ∧
      r'.volume? provided.name = some { provided with restoreStatus := .pending } := by
  unfold target at h
  split at h
  · cases h
  rename_i hnamed
  split at h
  · cases h
  rename_i hclaimed
  split at h
  · cases h
  split at h
  · cases h
  rename_i hfresh
  cases h
  refine ⟨eq_false_of_ne_true hnamed, eq_false_of_ne_true hclaimed,
    fun heq => hfresh (.inl heq), ?_⟩
  rw [Registry.volume?_insert, if_pos rfl]

/-- A volume that a restore of a backup of another volume may fill. -/
structure MayFill (r : Registry) (volumeId : String) (provided : Volume) : Prop where
  named : Text.blank provided.name = false
  claimed : Text.blank provided.claimNamespace = false
  other : provided.name ≠ volumeId
  unknown : r.volume? provided.name = none
  idle : r.inFlight provided.name = false

/-- Such a volume will do, whatever the backup is called. -/
theorem MayFill.target {r : Registry} {t : Restore} {provided : Volume}
    (h : MayFill r t.volumeId provided) :
    ∃ r', t.target r provided =
      .waits r' { t with stage := .ordering { provided with restoreStatus := .pending } } := by
  have hbegin : r.begin? provided.name = some { r with held := provided.name :: r.held } := by
    simp [Registry.begin?, h.idle]
  simp [Restore.target, h.named, h.claimed, h.other, h.unknown, hbegin]

/-- A volume that is known already, or that the backup was taken of, will not do. -/
theorem target_of_known {r : Registry} {t : Restore} {provided : Volume}
    (h : provided.name = t.volumeId ∨ (r.volume? provided.name).isSome) :
    ∃ cause, t.target r provided = .ends r (.error cause) ∧
      ((Text.blank provided.name ∧ cause = .insufficientMetadata .volumeId) ∨
        (Text.blank provided.claimNamespace ∧ cause = .insufficientMetadata .claimNamespace) ∨
        (r.inFlight provided.name ∧ cause = .operationInProgress provided.name) ∨
        cause = .restoreTargetConflict t.volumeId provided.name) := by
  simp only [target, if_pos h]
  split
  · rename_i hblank
    exact ⟨_, rfl, .inl ⟨hblank, rfl⟩⟩
  split
  · rename_i hblank
    exact ⟨_, rfl, .inr (.inl ⟨hblank, rfl⟩)⟩
  split
  · rename_i htaken
    exact ⟨_, rfl, .inr (.inr (.inl ⟨Registry.begin?_eq_none_iff.mp htaken, rfl⟩))⟩
  · exact ⟨_, rfl, .inr (.inr (.inr rfl))⟩

/-- A volume that will not do changes nothing: it lacks a name or a namespace, it is
being worked on, or it is known. -/
theorem target_refuses {r r' : Registry} {t : Restore} {provided : Volume} {outcome : Outcome}
    (h : t.target r provided = .ends r' outcome) :
    r' = r ∧ ∃ cause, outcome = .error cause ∧
      ((∃ field, cause = .insufficientMetadata field) ∨
        (∃ name, cause = .operationInProgress name) ∨
        cause = .restoreTargetConflict t.volumeId provided.name) := by
  unfold target at h
  split at h
  · cases h
    exact ⟨rfl, _, rfl, .inl ⟨_, rfl⟩⟩
  split at h
  · cases h
    exact ⟨rfl, _, rfl, .inl ⟨_, rfl⟩⟩
  split at h
  · cases h
    exact ⟨rfl, _, rfl, .inr (.inl ⟨_, rfl⟩)⟩
  split at h
  · cases h
    exact ⟨rfl, _, rfl, .inr (.inr rfl)⟩
  · cases h

/-- So it is refused before the job is ordered. -/
theorem target_ends {r r' : Registry} {t : Restore} {provided : Volume} {outcome : Outcome}
    (h : t.target r provided = .ends r' outcome) :
    r' = r ∧ ∃ cause, outcome = .error cause ∧
      (cause.phase = .validation ∨ cause.phase = .command) := by
  obtain ⟨hr, cause, rfl, ⟨field, rfl⟩ | ⟨name, rfl⟩ | rfl⟩ := target_refuses h
  · exact ⟨hr, _, rfl, .inl rfl⟩
  · exact ⟨hr, _, rfl, .inl rfl⟩
  · exact ⟨hr, _, rfl, .inr rfl⟩

/-- A restore finds the marker of a volume that was provided taken when that volume
has a name and a namespace. -/
theorem target_inProgress_iff {r r' : Registry} {t : Restore} {provided : Volume}
    {name : String} :
    t.target r provided = .ends r' (.error (.operationInProgress name)) ↔
      r' = r ∧ name = provided.name ∧ r.inFlight provided.name ∧
        Text.blank provided.name = false ∧ Text.blank provided.claimNamespace = false := by
  constructor
  · intro h
    unfold target at h
    split at h
    · cases h
    rename_i hnamed
    split at h
    · cases h
    rename_i hclaimed
    split at h
    · rename_i htaken
      cases h
      exact ⟨rfl, rfl, Registry.begin?_eq_none_iff.mp htaken, eq_false_of_ne_true hnamed,
        eq_false_of_ne_true hclaimed⟩
    · split at h <;> cases h
  · rintro ⟨rfl, rfl, hin, hnamed, hclaimed⟩
    have htaken := Registry.begin?_eq_none_iff.mpr hin
    simp [target, hnamed, hclaimed, htaken]

/-- The signals after which a restore waits again. -/
inductive GoesOn (r : Registry) (t : Restore) : Signal → Registry → Restore → Prop where
  | provided {v : Volume} {r' : Registry} {t' : Restore} (stage : t.stage = .provisioning)
      (target : t.target r v = .waits r' t') :
      GoesOn r t (.answered (.provisioned (.ok v))) r' t'
  | accepted {target : Volume} {job : JobHandle} (stage : t.stage = .ordering target) :
      GoesOn r t (.answered (.accepted (.ok job))) r
        { t with stage := .confirming target (.start job .download t.object) }
  | continued {target : Volume} {c c' : Confirmation} {signal : Signal}
      (stage : t.stage = .confirming target c)
      (advance : c.advance signal = some (.continues c')) :
      GoesOn r t signal r { t with stage := .confirming target c' }

/-- The signals with which a restore ends. -/
inductive Ends (r : Registry) (t : Restore) : Signal → Registry → Outcome → Prop where
  | rejected {v : Volume} {r' : Registry} {outcome : Outcome} (stage : t.stage = .provisioning)
      (target : t.target r v = .ends r' outcome) :
      Ends r t (.answered (.provisioned (.ok v))) r' outcome
  | unprovided {cause : DirectoryError} (stage : t.stage = .provisioning) :
      Ends r t (.answered (.provisioned (.error cause))) r
        (.error (.provisionFailed t.volumeId cause))
  | refused {target : Volume} {cause : ControlPlaneError} (stage : t.stage = .ordering target) :
      Ends r t (.answered (.accepted (.error cause))) r (.error (.ofControlPlane cause))
  | failed {target : Volume} {c : Confirmation} {signal : Signal} {cause : TransferError}
      (stage : t.stage = .confirming target c)
      (advance : c.advance signal = some (.failed cause)) :
      Ends r t signal r (.error (.transferFailed cause))
  | timedOut {target : Volume} {c : Confirmation} {signal : Signal}
      (stage : t.stage = .confirming target c) (advance : c.advance signal = some .timedOut) :
      Ends r t signal r (.error (.timeout c.job.volumeId t.settings.operationTimeout))
  | unconfirmed {target : Volume} {c : Confirmation} {signal : Signal}
      (stage : t.stage = .confirming target c) (advance : c.advance signal = some .settled)
      (status : r.statusOf c.job ≠ .done) :
      Ends r t signal r (.error (.restoreNotConfirmed target.name (r.statusOf c.job)))
  | confirmed {target : Volume} {c : Confirmation} {signal : Signal}
      (stage : t.stage = .confirming target c) (advance : c.advance signal = some .settled)
      (status : r.statusOf c.job = .done) :
      Ends r t signal r (.ok (.restored target.name))

/-- What was noted of the job decides whether the volume is restored. -/
theorem ends_of_conclude {r : Registry} {t : Restore} {target : Volume} {c : Confirmation}
    {signal : Signal} (stage : t.stage = .confirming target c)
    (advance : c.advance signal = some .settled) :
    ∃ r' outcome, conclude r target c.job = .ends r' outcome ∧ Ends r t signal r' outcome := by
  rcases (r.statusOf c.job).ite_isSuccess _ _ with ⟨hdone, hends⟩ | ⟨hother, hends⟩
  · exact ⟨_, _, hends, .confirmed stage advance hdone⟩
  · exact ⟨_, _, hends, .unconfirmed stage advance hother⟩

/-- A signal that a restore waits for has it wait again or end. -/
theorem goesOn_or_ends_of_resume {r : Registry} {t : Restore} {signal : Signal}
    {p : Progress Restore} (h : t.resume r signal = some p) :
    (∃ r' t', p = .waits r' t' ∧ t.GoesOn r signal r' t') ∨
      ∃ r' outcome, p = .ends r' outcome ∧ t.Ends r signal r' outcome := by
  unfold resume at h
  split at h
  · rename_i cause hstage
    cases h
    exact .inr ⟨_, _, rfl, .unprovided hstage⟩
  · rename_i v hstage
    cases h
    cases htarget : t.target r v with
    | waits r' t' => exact .inl ⟨_, _, rfl, .provided hstage htarget⟩
    | ends r' outcome => exact .inr ⟨_, _, rfl, .rejected hstage htarget⟩
  · rename_i target cause hstage
    cases h
    exact .inr ⟨_, _, rfl, .refused hstage⟩
  · rename_i target job hstage
    cases h
    exact .inl ⟨_, _, rfl, .accepted hstage⟩
  · rename_i target c hstage
    obtain ⟨verdict, hverdict, rfl⟩ := Option.map_eq_some_iff.mp h
    cases verdict with
    | continues c' => exact .inl ⟨_, _, rfl, .continued hstage hverdict⟩
    | settled => exact .inr (ends_of_conclude hstage hverdict)
    | failed cause => exact .inr ⟨_, _, rfl, .failed hstage hverdict⟩
    | timedOut => exact .inr ⟨_, _, rfl, .timedOut hstage hverdict⟩
  · cases h

theorem goesOn_of_resume {r r' : Registry} {t t' : Restore} {signal : Signal}
    (h : t.resume r signal = some (.waits r' t')) : t.GoesOn r signal r' t' := by
  rcases goesOn_or_ends_of_resume h with ⟨_, _, heq, hgoes⟩ | ⟨_, _, heq, _⟩
  · cases heq
    exact hgoes
  · cases heq

theorem ends_of_resume {r r' : Registry} {t : Restore} {signal : Signal} {outcome : Outcome}
    (h : t.resume r signal = some (.ends r' outcome)) : t.Ends r signal r' outcome := by
  rcases goesOn_or_ends_of_resume h with ⟨_, _, heq, _⟩ | ⟨_, _, heq, hends⟩
  · cases heq
  · cases heq
    exact hends

end Restore

end SnapshotEngine
