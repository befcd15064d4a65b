import SnapshotEngine.Proofs.Engine.Account
import SnapshotEngine.Proofs.Engine.Provenance

/-!
# What the registry holds

Records enter the registry in three ways: with a claim, with the volume that a restore was
provided with, and with a backup that ends well.  Each way has checks of its own.  Together
they see to it that a registry that was empty once holds only volumes that go by their own
names and have a namespace, and snapshots of which nothing is missing, under their own
identifiers and with the namespace of a volume that is known.  So a snapshot that is kept has
all that its removal needs.

* `Registry.WellFormed` — what is well-formed;
* `Effect.volumes_wellFormed` — the ways of a volume;
* `Usable` — the way of a snapshot;
* `wellFormed_trace`, `registry_wellFormed` — the whole registry.
-/

namespace SnapshotEngine

/-- A volume is known by its name, and has a name and a namespace. -/
structure Volume.WellFormed (name : String) (v : Volume) : Prop where
  own : v.name = name
  named : Text.blank v.name = false
  claimed : Text.blank v.claimNamespace = false

/-- A snapshot is kept under its identifier, lacks nothing, and has the namespace that its
volume is known with. -/
structure Snapshot.WellFormed (r : Registry) (id : String) (s : Snapshot) : Prop where
  own : id = s.volumeId ++ separator ++ s.backupName
  complete : s.missingField = none
  housed : ∃ v, r.volume? s.volumeId = some v ∧ v.claimNamespace = s.claimNamespace

/-- All records of a registry are well-formed. -/
structure Registry.WellFormed (r : Registry) : Prop where
  volumes : ∀ name v, r.volume? name = some v → v.WellFormed name
  snapshots : ∀ id s, r.snapshot? id = some s → s.WellFormed r id

theorem Volume.WellFormed.same {name : String} {v v' : Volume} (h : v.WellFormed name)
    (hsame : v.Same v') : v'.WellFormed name where
  own := hsame.name.trans h.own
  named := by rw [hsame.name]; exact h.named
  claimed := by rw [hsame.claimNamespace]; exact h.claimed

/-- A claim is accepted only if it has a name and a namespace. -/
theorem Claim.wellFormed_of_accepted {c : Claim} {v : Volume} (h : c.verdict = .accepted v) :
    v.WellFormed v.name := by
  obtain ⟨hqualifies, rfl⟩ := Claim.verdict_eq_accepted_iff.mp h
  exact ⟨rfl, hqualifies.named, hqualifies.claimNamespace_record.2⟩

namespace Engine

variable {e e' : Engine} {s : Stimulus} {stimuli : List Stimulus} {events : List Event}

/-! ## Volumes -/

/-- **Step.**  Both ways into the registry ask a volume for its name and its namespace. -/
theorem Effect.volumes_wellFormed (h : Effect e s e' events)
    (before : ∀ name v, e.registry.volume? name = some v → v.WellFormed name) :
    ∀ name v, e'.registry.volume? name = some v → v.WellFormed name := by
  intro name v hv
  cases h.record name with
  | unknown unknown after => cases after.symm.trans hv
  | kept known after same =>
      cases after.symm.trans hv
      exact (before name _ known).same same
  | discovered unknown accepted named after =>
      cases after.symm.trans hv
      exact named ▸ Claim.wellFormed_of_accepted accepted
  | provided unknown found stage target named after =>
      cases after.symm.trans hv
      obtain ⟨hnamed, hclaimed, _⟩ := Restore.target_registers target
      exact ⟨named, hnamed, hclaimed⟩

/-- **Run.** -/
theorem volumes_wellFormed_trace (h : Trace .empty stimuli e events) :
    ∀ name v, e.registry.volume? name = some v → v.WellFormed name := by
  induction h with
  | start => exact fun _ _ hv => by cases hv
  | step before s ih => exact (effect_step _ s).volumes_wellFormed ih

/-! ## Snapshots -/

/-- Every backup in progress and every snapshot that is kept has a name that is not blank. -/
structure Usable (e : Engine) : Prop where
  backups : ∀ k b, e.operations.get? k = some (.backup b) → Text.blank b.backupName = false
  cached : ∀ id s, e.registry.snapshot? id = some s → Text.blank s.backupName = false

/-- **Step.**  A backup has its name checked as it starts. -/
theorem Usable.effect (h : Usable e) (heffect : Effect e s e' events) : Usable e' := by
  have hholds := heffect.snapshots_hold
    (P := fun _ _ sn => Text.blank sn.backupName = false)
    (fun _ _ husable => husable) ?_ h.backups h.cached
  · exact ⟨hholds.1, hholds.2⟩
  · intro settings volumeId backupName r b hstart
    exact Backup.start_usable hstart

/-- **Run.** -/
theorem usable_trace (h : Trace .empty stimuli e events) : Usable e := by
  induction h with
  | start => exact ⟨fun _ _ hop => (by cases hop), fun _ _ hs => (by cases hs)⟩
  | step before s ih => exact ih.effect (effect_step _ s)

/-- **Run.**  A registry that was empty once is well-formed. -/
theorem wellFormed_trace (h : Trace .empty stimuli e events) : e.registry.WellFormed where
  volumes := volumes_wellFormed_trace h
  snapshots id s hs := by
    obtain ⟨hid, _⟩ := (sourced_trace h fun _ => rfl).cached id s hs
    obtain ⟨v, hv, hclaimed⟩ := (housed_trace h fun _ => rfl).cached id s hs
    have hvolume := volumes_wellFormed_trace h s.volumeId v hv
    refine ⟨(SnapshotId.encode_eq_ok_iff.mp hid).2.2, ?_, v, hv, hclaimed⟩
    refine Snapshot.missingField_eq_none_iff.mpr ⟨?_, (usable_trace h).cached id s hs, ?_⟩
    · exact hvolume.own ▸ hvolume.named
    · exact hclaimed ▸ hvolume.claimed

/-! ## Removals -/

/-- The removal of a snapshot that is kept starts with the control plane, if the snapshot
lacks nothing. -/
theorem step_removal_of_cached {snapshotId : String} {sn : Snapshot} (settings : Settings)
    (hcached : e.registry.snapshot? snapshotId = some sn) (complete : sn.missingField = none) :
    (e.step (.ordered settings (.removal snapshotId))).2 =
      [.called e.next (.deleteBackup sn.volumeId sn.backupName sn.claimNamespace)] := by
  simp [step, order, Operation.start, Removal.start, Removal.retract, hcached, complete,
    Progress.map, callEvents, Operation.call?, Removal.call?]

/-- **The registry is well-formed.**  Whatever happens to an engine that knew nothing: its
registry holds well-formed records only; a volume that is known stays known, with its name,
its namespace and its class; and a removal of a snapshot that is kept has the snapshot
deleted in the control plane, and fails neither for a volume that is not known, nor for its
identifier, nor for something that is missing. -/
theorem registry_wellFormed (stimuli rest : List Stimulus) :
    let e := (empty.run stimuli).1
    e.registry.WellFormed ∧
      (∀ name v, e.registry.volume? name = some v →
        ∃ v', (e.run rest).1.registry.volume? name = some v' ∧ v.Same v') ∧
      ∀ settings snapshotId s, e.registry.snapshot? snapshotId = some s →
        (e.step (.ordered settings (.removal snapshotId))).2 =
          [.called e.next (.deleteBackup s.volumeId s.backupName s.claimNamespace)] ∧
        ∀ cause, .ended e.next (.error cause) ∈
            (e.run (.ordered settings (.removal snapshotId) :: rest)).2 →
          (∀ volumeId, cause ≠ .volumeNotFound volumeId) ∧
            (∀ error, cause ≠ .malformedIdentifier error) ∧
            ∀ field, cause ≠ .insufficientMetadata field := by
  intro e
  have hwellFormed : e.registry.WellFormed := wellFormed_trace (trace_run .empty stimuli)
  refine ⟨hwellFormed, fun name v hv => registered_run hv rest, ?_⟩
  intro settings snapshotId sn hcached
  have hstarts := step_removal_of_cached settings hcached
    (hwellFormed.snapshots snapshotId sn hcached).complete
  refine ⟨hstarts, fun cause hended => ?_⟩
  have hphase : cause.phase ≠ .validation := by
    intro hphase
    let order := Stimulus.ordered settings (.removal snapshotId)
    have hended : .ended e.next (.error cause) ∈
        ((ofRegistry .empty).run (stimuli ++ order :: rest)).2 := by
      rw [run_append]
      exact List.mem_append_right _ hended
    have hcalled : .called e.next (.deleteBackup sn.volumeId sn.backupName sn.claimNamespace) ∈
        ((ofRegistry .empty).run (stimuli ++ order :: rest)).2 :=
      mem_run_of_step rfl (hstarts ▸ List.mem_singleton_self _)
    obtain ⟨_, _, _, _, haccount⟩ := account_of_mem hended
    rcases (haccount.of_validation hphase).1 _ (mem_callsOf.mpr hcalled) with
      ⟨_, hcall⟩ | ⟨_, _, hcall⟩
    · cases hcall
    · cases hcall
  refine ⟨?_, ?_, ?_⟩
  · rintro volumeId rfl
    exact hphase rfl
  · rintro error rfl
    exact hphase rfl
  · rintro field rfl
    exact hphase rfl

/-- A volume is discovered and backed up, and the snapshot of it is kept. -/
def backupKept : List Stimulus :=
  .reported ⟨"pvc-1", "cstor", some "apps", .ofList [(engineLabel, engineName)], .bound⟩ ::
    backupUnderWay ++ [.woken 0 (.answered (.ok .done)), .signalled 0 (.answered (.moved true)),
      .signalled 0 .pollerExited]

theorem registry_wellFormed_daily :
    let id := "pvc-1-velero-bkp-daily-01"
    let removed : List Stimulus :=
      [.signalled 1 (.answered (.retracted (.ok ()))), .signalled 1 (.answered (.moved false))]
    let e := (empty.run backupKept).1
    e.registry.snapshot? id = some ⟨"pvc-1", "daily-01", "apps"⟩ ∧
      (∃ v, (e.run removed).1.registry.volume? "pvc-1" = some v ∧ v.casType = "cstor") ∧
      (e.step (.ordered (.default "mover:9000") (.removal id))).2 =
        [.called 1 (.deleteBackup "pvc-1" "daily-01" "apps")] ∧
      ∃ cause, .ended 1 (.error cause) ∈
          (e.run (.ordered (.default "mover:9000") (.removal id) :: removed)).2 ∧
        ∀ field, cause ≠ .insufficientMetadata field := by
  intro id removed e
  have hcached : e.registry.snapshot? id = some ⟨"pvc-1", "daily-01", "apps"⟩ := by
    decide +kernel
  have hknown : (e.registry.volume? "pvc-1").map (·.casType) = some "cstor" := by
    decide +kernel
  obtain ⟨v, hv, hclass⟩ := Option.map_eq_some_iff.mp hknown
  obtain ⟨_, hstays, hremoval⟩ := registry_wellFormed backupKept removed
  obtain ⟨v', hv', hsame⟩ := hstays "pvc-1" v hv
  obtain ⟨hstarts, hends⟩ := hremoval (.default "mover:9000") id _ hcached
  have hevents : (e.run (.ordered (.default "mover:9000") (.removal id) :: removed)).2 =
      [.called 1 (.deleteBackup "pvc-1" "daily-01" "apps"),
        .answered 1 (.deleteBackup "pvc-1" "daily-01" "apps") (.retracted (.ok ())),
        .called 1 (.move .delete "daily-01/cstor-pvc-1"),
        .answered 1 (.move .delete "daily-01/cstor-pvc-1") (.moved false),
        .ended 1 (.error (.remoteDeleteFailed "daily-01/cstor-pvc-1"))] := rfl
  have hended : .ended 1 (.error (.remoteDeleteFailed "daily-01/cstor-pvc-1")) ∈
      (e.run (.ordered (.default "mover:9000") (.removal id) :: removed)).2 := by
    simp [hevents]
  exact ⟨hcached, ⟨v', hv', hsame.casType.trans hclass⟩, hstarts, _, hended,
    (hends _ hended).2.2⟩

end Engine

end SnapshotEngine
