import SnapshotEngine.Proofs.Depot.Moved
import SnapshotEngine.Proofs.Engine.Provenance

/-!
# Whose data a transfer touches

A removal deletes the object of the backup that its identifier stands for, and a
backup writes the object of its own snapshot.  Another snapshot keeps its object
through both, unless the two backups share it: their identifiers differ, but the
backup of the one ends in what the volume of the other begins with.

* `placed`, `Trace.performed` — the orders of a run are those of its engine;
* `Trace.of_delete`, `Trace.of_upload` — whose object a transfer touches;
* `snapshots_isolated_iff` — which snapshots keep their objects;
* `removal_takes_other` — two that do not.
-/

namespace SnapshotEngine

namespace Depot

/-- The order that a stimulus places. -/
def Stimulus.order? : Stimulus → Option (Settings × Order)
  | .toEngine s => s.order?
  | .toStore _ | .arrived _ _ => none

/-- The orders that are placed, one after another. -/
def placed (stimuli : List Stimulus) : List (Settings × Order) :=
  stimuli.filterMap Stimulus.order?

theorem placed_concat (stimuli : List Stimulus) (s : Stimulus) :
    placed (stimuli ++ [s]) = placed stimuli ++ s.order?.toList := by
  unfold placed
  rw [List.filterMap_append]
  cases h : s.order? <;> simp [h]

/-- A transfer that comes to an end is no order. -/
theorem order?_of_transfer? {d : Depot} {s : SnapshotEngine.Stimulus}
    {transfer : Nat × TransferAction × String} (h : d.transfer? s = some transfer) :
    s.order? = none := by
  cases s <;> first | rfl | cases h

/-- **The orders of a depot.**  What the engine of a depot goes through is a run of the
engine with the orders that were placed. -/
theorem Trace.performed {r : Registry} {store : MemoryStore} {stimuli : List Stimulus}
    {d : Depot} {events : List Event} (h : Trace r store stimuli d events) :
    ∃ performed, Engine.Trace r performed d.engine events ∧
      ordersOf performed = placed stimuli := by
  induction h with
  | start => exact ⟨[], .start, rfl⟩
  | step before s ih =>
      rename_i stimuli d events
      obtain ⟨performed, htrace, horders⟩ := ih
      rw [placed_concat, ← horders]
      cases s with
      | toStore cue =>
          exact ⟨performed, by simpa [Depot.step] using htrace, by simp [Stimulus.order?]⟩
      | arrived action object =>
          exact ⟨performed, by simpa [Depot.step] using htrace, by simp [Stimulus.order?]⟩
      | toEngine s =>
          simp only [Depot.step]
          cases htransfer : d.transfer? s with
          | none => exact ⟨performed ++ [s], htrace.step s, ordersOf_concat performed s⟩
          | some transfer =>
              obtain ⟨id, action, object⟩ := transfer
              have hnone : (Stimulus.toEngine s).order? = none := order?_of_transfer? htransfer
              rw [hnone]
              dsimp only
              cases d.store.move object action with
              | none => exact ⟨performed, by simpa using htrace, by simp⟩
              | some answer => exact ⟨_, htrace.step _, ordersOf_concat _ _⟩

/-- What is moved in a step, its operation was waiting for, and the store has moved. -/
theorem of_moved {d d' : Depot} {s : Stimulus} {events : List Event} {id : Nat}
    {action : TransferAction} {object : String} (h : Effect d s d' events)
    (hmem : .moved id action object ∈ events) :
    ∃ op, d.engine.operations.get? id = some op ∧ op.call? = some (.move action object) ∧
      d.store.move object action = some (true, d'.store) := by
  cases h with
  | arranged => cases hmem
  | arrived => cases hmem
  | waiting => cases hmem
  | stepped other => exact absurd hmem (not_moved_of_other other id action object)
  | moved found call move =>
      obtain ⟨hs, op, hop, hcall⟩ := (Engine.effect_step _ _).of_answered hmem
      obtain ⟨rfl, rfl, rfl⟩ := eq_of_moved found call hmem
      cases hs
      exact ⟨op, hop, hcall, move⟩

/-- A deletion takes the object of the backup that the identifier of its removal stands
for, and no other object. -/
theorem Trace.of_delete {r : Registry} {store : MemoryStore} {stimuli : List Stimulus}
    {d d' : Depot} {s : Stimulus} {past events : List Event} {j : Nat} {settings : Settings}
    {snapshotId object : String} (h : Trace r store stimuli d past)
    (hempty : ∀ id, r.snapshot? id = none)
    (horder : (placed stimuli)[j]? = some (settings, .removal snapshotId))
    (heffect : Effect d s d' events) (hmem : .moved j .delete object ∈ events) :
    ∃ volumeId backupName, StandsFor (placed stimuli) past snapshotId volumeId backupName ∧
      object = settings.namer.objectName volumeId backupName ∧
        ∀ other, other ∈ d'.store.objects ↔ other ≠ object ∧ other ∈ d.store.objects := by
  obtain ⟨performed, htrace, horders⟩ := h.performed
  obtain ⟨op, hop, hcall, hmove⟩ := of_moved heffect hmem
  have hserving := Engine.serving_trace htrace
  rw [horders] at hserving
  obtain ⟨settings', order, horder', hserves⟩ := hserving.serves j op hop
  cases horder.symm.trans horder'
  rcases Operation.of_call?_move hcall with ⟨c, hc, _⟩ | ⟨x, sn, rfl, hstage, _, rfl⟩
  · obtain ⟨x, rfl, _⟩ := hserves.by_removal
    cases hc
  · obtain ⟨rfl, rfl⟩ := hserves
    have hstands := (Engine.sourced_trace htrace hempty).removals j x hop
    rw [horders] at hstands
    refine ⟨x.subject.1, x.subject.2, hstands, ?_, MemoryStore.mem_objects_delete hmove⟩
    simp only [Removal.object, Removal.subject, hstage]

/-- An upload writes the object of its backup, and no other object. -/
theorem Trace.of_upload {r : Registry} {store : MemoryStore} {stimuli : List Stimulus}
    {d d' : Depot} {s : Stimulus} {past events : List Event} {k : Nat} {settings : Settings}
    {volumeId backupName object : String} (h : Trace r store stimuli d past)
    (horder : (placed stimuli)[k]? = some (settings, .backup volumeId backupName))
    (heffect : Effect d s d' events) (hmem : .moved k .upload object ∈ events) :
    object = settings.namer.objectName volumeId backupName ∧
      ∀ other, other ∈ d'.store.objects ↔ other = object ∨ other ∈ d.store.objects := by
  obtain ⟨performed, htrace, horders⟩ := h.performed
  obtain ⟨op, hop, hcall, hmove⟩ := of_moved heffect hmem
  have hserving := Engine.serving_trace htrace
  rw [horders] at hserving
  obtain ⟨settings', order, horder', hserves⟩ := hserving.serves k op hop
  cases horder.symm.trans horder'
  refine ⟨?_, MemoryStore.mem_objects_upload hmove⟩
  obtain ⟨b, rfl, rfl, rfl, rfl⟩ := hserves.by_backup
  rcases Operation.of_call?_move hcall with ⟨c, hc, _, _, rfl⟩ | ⟨_, _, heq, _⟩
  · exact (Prod.mk.inj (Option.some.inj (hserving.moves k _ hop c hc))).2.symm
  · cases heq

/-- An object goes only as a removal deletes it. -/
theorem Trace.deleted_of_gone {r : Registry} {store : MemoryStore} {stimuli : List Stimulus}
    {d d' : Depot} {s : Stimulus} {past events : List Event} {object : String}
    (h : Trace r store stimuli d past) (heffect : Effect d s d' events)
    (hbefore : object ∈ d.store.objects) (hgone : object ∉ d'.store.objects) :
    ∃ j, .moved j .delete object ∈ events := by
  obtain ⟨performed, htrace, _⟩ := h.performed
  cases heffect with
  | arranged =>
      rename_i cue
      cases cue with
      | insert other => exact absurd ((MemoryStore.mem_objects_put _ _ _).mpr (.inr hbefore)) hgone
      | _ => exact absurd hbefore hgone
  | arrived =>
      rename_i action other
      cases action <;> exact absurd hbefore hgone
  | waiting => exact absurd hbefore hgone
  | stepped other => exact absurd hbefore hgone
  | moved found call move =>
      rename_i id op action other done store
      cases done with
      | false => exact absurd (MemoryStore.eq_of_move_false move ▸ hbefore) hgone
      | true =>
          cases action with
          | upload =>
              exact absurd ((MemoryStore.mem_objects_upload move object).mpr (.inr hbefore)) hgone
          | download =>
              exact absurd ((MemoryStore.mem_objects_download move).2 ▸ hbefore) hgone
          | delete =>
              have hobject : object = other := by
                by_contra hne
                exact hgone ((MemoryStore.mem_objects_delete move object).mpr ⟨hne, hbefore⟩)
              subst hobject
              rcases Operation.of_call?_move call with
                ⟨c, hc, _, haction, _⟩ | ⟨x, sn, rfl, hstage, _, rfl⟩
              · have hmoves := (Engine.serving_trace htrace).moves id op found c hc
                rw [haction] at hmoves
                cases op <;> cases hmoves
              · exact ⟨id, (erases_of_call found hstage).1⟩

/-- **Snapshots and the transfers of others.**  In a run that starts without snapshots,
and in which all operations name objects in one way, a snapshot loses its object only
as a removal deletes it.  The removal of another identifier deletes the object of the
backup which that identifier stands for, and spares the object of the snapshot exactly
if the two backups do not overlap; the backup of another identifier writes the object
of the snapshot exactly if they do.  Backups of volumes without a slash never
overlap. -/
theorem snapshots_isolated_iff (namer : ObjectNamer) (r : Registry) (store : MemoryStore)
    (stimuli : List Stimulus) (hempty : ∀ id, r.snapshot? id = none)
    (hnamer : ∀ settings order, (settings, order) ∈ placed stimuli → settings.namer = namer) :
    let d := ((start r store).run stimuli).1
    let events := ((start r store).run stimuli).2
    ∀ id sn, d.engine.registry.snapshot? id = some sn → ∀ s,
      (namer.objectName sn.volumeId sn.backupName ∈ d.store.objects →
        namer.objectName sn.volumeId sn.backupName ∉ (d.step s).1.store.objects →
          ∃ j, .moved j .delete (namer.objectName sn.volumeId sn.backupName) ∈ (d.step s).2) ∧
      (∀ j settings id', (placed stimuli)[j]? = some (settings, .removal id') → id' ≠ id →
        ∀ object, .moved j .delete object ∈ (d.step s).2 →
          ∃ volumeId backupName, StandsFor (placed stimuli) events id' volumeId backupName ∧
            object = namer.objectName volumeId backupName ∧
            (namer.objectName sn.volumeId sn.backupName ∈ (d.step s).1.store.objects ↔
              namer.objectName sn.volumeId sn.backupName ∈ d.store.objects ∧
                ¬ Overlap volumeId backupName sn.volumeId sn.backupName)) ∧
      (∀ k settings volumeId backupName id',
        (placed stimuli)[k]? = some (settings, .backup volumeId backupName) →
          SnapshotId.encode volumeId backupName = .ok id' → id' ≠ id →
            ∀ object, .moved k .upload object ∈ (d.step s).2 →
              (object = namer.objectName sn.volumeId sn.backupName ↔
                Overlap volumeId backupName sn.volumeId sn.backupName)) ∧
      ∀ volumeId backupName, Flat volumeId → Flat sn.volumeId →
        ¬ Overlap volumeId backupName sn.volumeId sn.backupName := by
  intro d events id sn hsn s
  have htrace : Trace r store stimuli d events := trace_run r store stimuli
  have hid : id = sn.volumeId ++ separator ++ sn.backupName := by
    obtain ⟨performed, hengine, horders⟩ := htrace.performed
    exact StandsFor.text (.inl ((Engine.sourced_trace hengine hempty).cached id sn hsn))
  have hnames : ∀ (k : Nat) settings order, (placed stimuli)[k]? = some (settings, order) →
      settings.namer = namer :=
    fun k settings order horder => hnamer settings order (List.mem_of_getElem? horder)
  -- Backups with different identifiers are different, so only an overlap is left.
  have hshares : ∀ volumeId backupName, volumeId ++ separator ++ backupName ≠ id →
      (namer.objectName volumeId backupName = namer.objectName sn.volumeId sn.backupName ↔
        Overlap volumeId backupName sn.volumeId sn.backupName) := by
    intro volumeId backupName hne
    refine ObjectNamer.objectName_eq_iff.trans (or_iff_right ?_)
    rintro ⟨rfl, rfl⟩
    exact hne hid.symm
  refine ⟨?_, ?_, ?_, ?_⟩
  · exact htrace.deleted_of_gone (effect_step d s)
  · intro j settings id' horder hne object hmem
    obtain ⟨volumeId, backupName, hstands, hobject, hobjects⟩ :=
      htrace.of_delete hempty horder (effect_step d s) hmem
    rw [hnames j settings _ horder] at hobject
    refine ⟨volumeId, backupName, hstands, hobject, ?_⟩
    rw [hobjects, ← hshares volumeId backupName (hstands.text ▸ hne), hobject, and_comm, ne_comm]
  · intro k settings volumeId backupName id' horder hid' hne object hmem
    rw [(htrace.of_upload horder (effect_step d s) hmem).1, hnames k settings _ horder]
    apply hshares
    rw [← (SnapshotId.encode_eq_ok_iff.mp hid').2.2]
    exact hne
  · intro volumeId backupName hflat hflat'
    exact not_overlap_of_flat hflat hflat'

/-- A backup with nobody in its way. -/
def backupRun (id : Nat) (volumeId backupName : String) : List Stimulus :=
  [.toEngine (.ordered (.default "mover:9000") (.backup volumeId backupName)),
    .toEngine (.signalled id (.answered (.preserved (.ok ())))),
    .toEngine (.signalled id
      (.answered (.accepted (.ok ⟨.backup, backupName, volumeId, "apps"⟩)))),
    .toEngine (.signalled id (.answered (.moved true))),
    .toEngine (.woken id (.answered (.ok .done))), .toEngine (.signalled id .pollerExited)]

/-- The removal of a snapshot that is kept, up to the deletion of its object. -/
def removalRun (id : Nat) (snapshotId : String) : List Stimulus :=
  [.toEngine (.ordered (.default "mover:9000") (.removal snapshotId)),
    .toEngine (.signalled id (.answered (.retracted (.ok ()))))]

/-- A volume that the cluster reports, in use in one namespace. -/
def discovered (name : String) : Stimulus :=
  .toEngine (.reported ⟨name, "openebs-cstor", some "apps", .ofList [(engineLabel, engineName)],
    .bound⟩)

/-- Two backups of two volumes that overlap, and the removal of the first. -/
def overlappingBackups : List Stimulus :=
  [discovered "pvc-7", discovered "site/cstor-pvc-7"] ++
    backupRun 0 "pvc-7" "daily/cstor-site" ++ backupRun 1 "site/cstor-pvc-7" "daily" ++
      removalRun 2 "pvc-7-velero-bkp-daily/cstor-site"

/-- Two snapshots of one object: the upload of the second has written the object of the
first, and the removal of the first takes the object of the second. -/
theorem removal_takes_other :
    let first := "pvc-7-velero-bkp-daily/cstor-site"
    let second := "site/cstor-pvc-7-velero-bkp-daily"
    let d := ((start .empty .empty).run overlappingBackups).1
    let after := d.step (.toEngine (.signalled 2 (.answered (.moved true))))
    first ≠ second ∧
      d.engine.registry.snapshot? first = some ⟨"pvc-7", "daily/cstor-site", "apps"⟩ ∧
      d.engine.registry.snapshot? second = some ⟨"site/cstor-pvc-7", "daily", "apps"⟩ ∧
      d.store.objects = [ObjectNamer.plain.objectName "site/cstor-pvc-7" "daily"] ∧
      d.store.objects = [ObjectNamer.plain.objectName "pvc-7" "daily/cstor-site"] ∧
      after.1.engine.registry.snapshot? second = some ⟨"site/cstor-pvc-7", "daily", "apps"⟩ ∧
      after.1.store.objects = [] := by
  intro first second d after
  refine ⟨?_, ?_, ?_, ?_, ?_, ?_, ?_⟩ <;> decide +kernel

/-- Two backups of one volume, and the removal of the first. -/
def twoBackups : List Stimulus :=
  [discovered "pvc-1"] ++ backupRun 0 "pvc-1" "daily-01" ++ backupRun 1 "pvc-1" "daily-02" ++
    removalRun 2 "pvc-1-velero-bkp-daily-01"

theorem snapshots_isolated_iff_daily :
    let d := ((start .empty .empty).run twoBackups).1
    let after := d.step (.toEngine (.signalled 2 (.answered (.moved true))))
    (∀ id, Registry.empty.snapshot? id = none) ∧
      (∀ settings order, (settings, order) ∈ placed twoBackups → settings.namer = .plain) ∧
      d.engine.registry.snapshot? "pvc-1-velero-bkp-daily-02" =
        some ⟨"pvc-1", "daily-02", "apps"⟩ ∧
      .moved 2 .delete "daily-01/cstor-pvc-1" ∈ after.2 ∧
      "daily-02/cstor-pvc-1" ∈ after.1.store.objects := by
  intro d after
  have hempty : ∀ id, Registry.empty.snapshot? id = none := fun _ => rfl
  have hall : ∀ placement ∈ placed twoBackups, placement.1.namer = .plain := by decide
  have hnamer : ∀ settings order, (settings, order) ∈ placed twoBackups →
      settings.namer = .plain := fun settings order hmem => hall _ hmem
  have hkept : d.engine.registry.snapshot? "pvc-1-velero-bkp-daily-02" =
      some ⟨"pvc-1", "daily-02", "apps"⟩ := by decide +kernel
  have hthere : ObjectNamer.plain.objectName "pvc-1" "daily-02" ∈ d.store.objects := by
    decide +kernel
  have hdeleted : .moved 2 .delete "daily-01/cstor-pvc-1" ∈ after.2 :=
    List.mem_of_getElem? (i := 0) rfl
  have horder : (placed twoBackups)[2]? =
      some (.default "mover:9000", .removal "pvc-1-velero-bkp-daily-01") := rfl
  obtain ⟨_, hspares, _, _⟩ := snapshots_isolated_iff .plain .empty .empty twoBackups hempty
    hnamer _ _ hkept (.toEngine (.signalled 2 (.answered (.moved true))))
  obtain ⟨volumeId, backupName, _, hobject, hiff⟩ :=
    hspares 2 _ _ horder (by decide) _ hdeleted
  refine ⟨hempty, hnamer, hkept, hdeleted, hiff.mpr ⟨hthere, fun hoverlap => ?_⟩⟩
  -- An overlap would make the object that is deleted the one that stays.
  have hsame : ObjectNamer.plain.objectName volumeId backupName =
      ObjectNamer.plain.objectName "pvc-1" "daily-02" :=
    ObjectNamer.objectName_eq_iff.mpr (.inr hoverlap)
  rw [← hobject] at hsame
  exact absurd hsame (by decide)

end Depot

end SnapshotEngine
