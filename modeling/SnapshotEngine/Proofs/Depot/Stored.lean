import SnapshotEngine.Proofs.Depot.Erased

/-!
# When the data of a snapshot is there

A snapshot is kept when its backup is confirmed, and its object was uploaded some
time before.  In between the object may be deleted: a removal takes no marker, so
that it can start and end while the backup still waits for its job.  The snapshot
is then kept without its data.  Nothing else loses data.

* `Overtaken` — a backup whose object was deleted too early;
* `stored_trace` — all snapshots have their data unless there is one;
* `snapshots_stored_iff` — so they have it, at all times, exactly if no backup is
  overtaken by a removal;
* `snapshot_without_data` — a backup that is.
-/

namespace SnapshotEngine

/-- A backup has ended well although the object it had uploaded was deleted in the
meantime. -/
def Overtaken (events : List Event) : Prop :=
  ∃ id other object snapshotId, [.moved id .upload object, .moved other .delete object,
    .ended id (.ok (.backedUp snapshotId))].Sublist events

/-- Of some events, only the last can come last. -/
theorem sublist_concat {first front : List Event} {last event : Event}
    (h : (front ++ [last]).Sublist (first ++ [event])) :
    (front ++ [last]).Sublist first ∨ (front.Sublist first ∧ last = event) := by
  obtain ⟨early, late, heq, hearly, hlate⟩ := List.sublist_append_iff.mp h
  rcases List.sublist_singleton.mp hlate with rfl | rfl
  · rw [heq, List.append_nil]
    exact .inl hearly
  · obtain ⟨hfront, hevent⟩ := List.append_inj' heq rfl
    cases hevent
    exact .inr ⟨hfront ▸ hearly, rfl⟩

theorem Overtaken.append {past : List Event} (h : Overtaken past) (later : List Event) :
    Overtaken (past ++ later) := by
  obtain ⟨id, other, object, snapshotId, hsub⟩ := h
  exact ⟨id, other, object, snapshotId, hsub.trans (List.sublist_append_left past later)⟩

namespace Depot

/-- Every snapshot that is kept has its data. -/
def Stored (namer : ObjectNamer) (d : Depot) : Prop :=
  ∀ id s, d.engine.registry.snapshot? id = some s →
    namer.objectName s.volumeId s.backupName ∈ d.store.objects

/-- A backup that ends well leaves the store alone and keeps its snapshot. -/
theorem Effect.of_backedUp {d d' : Depot} {s : Stimulus} {events : List Event} {id : Nat}
    {snapshotId : String} (h : Effect d s d' events)
    (hmem : .ended id (.ok (.backedUp snapshotId)) ∈ events) :
    ∃ b c, d.engine.operations.get? id = some (.backup b) ∧ b.stage = .confirming c ∧
      c.stage ≠ .transferring ∧ snapshotId = b.snapshotId ∧
      events = [.ended id (.ok (.backedUp snapshotId))] ∧ d'.store = d.store ∧
      d'.engine.registry.snapshot? snapshotId = some b.snapshot := by
  cases h with
  | arranged => cases hmem
  | arrived => cases hmem
  | waiting => cases hmem
  | stepped other =>
      obtain ⟨_, b, c, found, stage, hmoved, hid, hevents, hsnapshots⟩ :=
        (Engine.effect_step _ _).of_backedUp hmem
      refine ⟨b, c, found, stage, hmoved, hid, hevents, rfl, ?_⟩
      unfold Registry.snapshot?
      rw [hsnapshots, Table.get?_insert, if_pos rfl]
  | moved found call move =>
      cases ((Engine.effect_step _ _).of_backedUp hmem).1

/-- A transfer takes nothing away unless it is a deletion that has gone well. -/
theorem mem_objects_move {store store' : MemoryStore} {action : TransferAction}
    {object other : String} {done : Bool} (move : store.move object action = some (done, store'))
    (h : action ≠ .delete ∨ done = false) (hmem : other ∈ store.objects) :
    other ∈ store'.objects := by
  cases done with
  | false => exact (MemoryStore.eq_of_move_false move).symm ▸ hmem
  | true =>
      cases action with
      | upload => exact (MemoryStore.mem_objects_upload move other).mpr (.inr hmem)
      | download => exact (MemoryStore.mem_objects_download move).2.symm ▸ hmem
      | delete => simp at h

/-- **Step**, in which no transfer comes to an end. -/
theorem Stored.stepped {namer : ObjectNamer} {d : Depot} {s : SnapshotEngine.Stimulus}
    {e' : Engine} {past events : List Event} (h : Stored namer d) (hknown : Known namer d past)
    (herased : Erased d past) (heffect : d.engine.Effect s e' events) :
    Overtaken (past ++ events) ∨ Stored namer ⟨e', d.store⟩ := by
  cases heffect.snapshots with
  | kept same unconfirmed =>
      right
      intro id sn hsn
      unfold Registry.snapshot? at hsn
      rw [same] at hsn
      exact h id sn hsn
  | inserted found stage settled snapshots =>
      rename_i k b c
      have hobject := herased k b c found stage settled
      by_cases hgone : ErasedSince k b.object past
      · obtain ⟨other, hsub⟩ := hgone
        exact .inl ⟨k, other, b.object, b.snapshotId, hsub.append (List.Sublist.refl _)⟩
      · right
        intro id sn hsn
        unfold Registry.snapshot? at hsn
        rw [snapshots, Table.get?_insert] at hsn
        split at hsn
        · cases hsn
          have hnamer := (hknown.named.backups k b found).1
          have hstored := hobject.mpr hgone
          unfold Backup.object at hstored
          rw [hnamer] at hstored
          exact hstored
        · exact h id sn hsn
  | removed found stage snapshots unconfirmed =>
      right
      intro id sn hsn
      unfold Registry.snapshot? at hsn
      rw [snapshots, Table.get?_erase] at hsn
      split at hsn
      · cases hsn
      · exact h id sn hsn

/-- **Step**, in which a transfer comes to an end. -/
theorem Stored.moved {namer : ObjectNamer} {d : Depot} {id : Nat} {op : Operation}
    {action : TransferAction} {object : String} {done : Bool} {store : MemoryStore}
    {past : List Event} (h : Stored namer d) (hknown : Known namer d past)
    (found : d.engine.operations.get? id = some op)
    (call : op.call? = some (.move action object))
    (move : d.store.move object action = some (done, store)) :
    Stored namer ⟨(d.engine.step (.signalled id (.answered (.moved done)))).1, store⟩ := by
  by_cases hdeleted : action = .delete ∧ done = true
  · obtain ⟨rfl, rfl⟩ := hdeleted
    obtain ⟨x, sn, rfl, hstage, rfl⟩ := hknown.removal_of_delete found call
    have hsnapshots := (erases_of_call found hstage).2
    intro other s hs
    unfold Registry.snapshot? at hs
    rw [hsnapshots, Table.get?_erase] at hs
    split at hs
    · cases hs
    · rename_i hne
      refine (MemoryStore.mem_objects_delete move _).mpr ⟨?_, h other s hs⟩
      -- Whoever shares the object that was deleted was forgotten with it.
      intro hshared
      obtain ⟨hnamer, hspelled⟩ := hknown.named.removals id x found
      unfold Removal.Spelled at hspelled
      rw [hstage] at hspelled
      unfold Removal.object at hshared
      rw [hnamer] at hshared
      have hnames := hknown.named.cached other s hs
      exact hne (Snapshot.eq_of_objectName hnames hspelled hshared).2.symm
  · have hkept : action ≠ .delete ∨ done = false := by
      by_cases haction : action = .delete
      · exact .inr (Bool.eq_false_iff.mpr fun hdone => hdeleted ⟨haction, hdone⟩)
      · exact .inl haction
    intro other s hs
    apply mem_objects_move move hkept
    exact h other s
      ((Engine.effect_step _ _).snapshot?_of_other (fun k heq => by cases heq) hs)

/-- **Step.**  All snapshots keep their data, unless a backup is overtaken. -/
theorem Stored.effect {namer : ObjectNamer} {d d' : Depot} {s : Stimulus}
    {past events : List Event} (h : Stored namer d) (hknown : Known namer d past)
    (herased : Erased d past) (heffect : Effect d s d' events) (hfits : s.fits namer) :
    Overtaken (past ++ events) ∨ Stored namer d' := by
  cases heffect with
  | arranged =>
      right
      intro id sn hsn
      rw [objects_cue_of_fits hfits]
      exact h id sn hsn
  | arrived =>
      right
      intro id sn hsn
      rw [objects_arrive]
      exact h id sn hsn
  | waiting => exact .inr h
  | stepped other => exact h.stepped hknown herased (Engine.effect_step _ _)
  | moved found call move => exact .inr (h.moved hknown found call move)

/-- **Run.** -/
theorem stored_trace {namer : ObjectNamer} {r : Registry} {store : MemoryStore}
    {stimuli : List Stimulus} {d : Depot} {events : List Event}
    (h : Trace r store stimuli d events) (hempty : ∀ id, r.snapshot? id = none)
    (hfits : ∀ s ∈ stimuli, s.fits namer) : Overtaken events ∨ Stored namer d := by
  induction h with
  | start =>
      right
      intro id s hs
      cases (hempty id).symm.trans hs
  | step before s ih =>
      have hpast := fun t ht => hfits t (List.mem_append_left _ ht)
      rcases ih hpast with hovertaken | hstored
      · exact .inl (hovertaken.append _)
      · exact hstored.effect (known_trace before hempty hpast) (erased_trace before hempty hpast)
          (effect_step _ s) (hfits s (by simp))

/-- At the moment at which a backup ends well its snapshot is kept, and its object is
there unless it was deleted since it was uploaded. -/
theorem stored_iff_of_backedUp {namer : ObjectNamer} {d d' : Depot} {s : Stimulus}
    {past events : List Event} {id : Nat} {snapshotId : String} (hknown : Known namer d past)
    (herased : Erased d past) (heffect : Effect d s d' events)
    (hmem : .ended id (.ok (.backedUp snapshotId)) ∈ events) :
    ∃ sn, d'.engine.registry.snapshot? snapshotId = some sn ∧
      (namer.objectName sn.volumeId sn.backupName ∈ d'.store.objects ↔
        ¬ ErasedSince id (namer.objectName sn.volumeId sn.backupName) past) := by
  obtain ⟨b, c, found, stage, hmoved, _, _, hstore, hsnapshot⟩ := heffect.of_backedUp hmem
  refine ⟨b.snapshot, hsnapshot, ?_⟩
  have hobject : namer.objectName b.snapshot.volumeId b.snapshot.backupName = b.object := by
    rw [← (hknown.named.backups id b found).1]
    rfl
  rw [hobject, hstore]
  exact herased id b c found stage hmoved

/-- As soon as a backup is overtaken there is a snapshot without its data. -/
theorem not_stored_of_overtaken {namer : ObjectNamer} {d d' : Depot} {s : Stimulus}
    {past events : List Event} (hknown : Known namer d past) (herased : Erased d past)
    (heffect : Effect d s d' events) (hnot : ¬ Overtaken past)
    (hovertaken : Overtaken (past ++ events)) : ¬ Stored namer d' := by
  obtain ⟨id, other, object, snapshotId, hsub⟩ := hovertaken
  let front : List Event := [.moved id .upload object, .moved other .delete object]
  have hearly : ¬ (front ++ [Event.ended id (.ok (.backedUp snapshotId))]).Sublist past :=
    fun hsub => hnot ⟨id, other, object, snapshotId, hsub⟩
  have hmem : .ended id (.ok (.backedUp snapshotId)) ∈ events := by
    by_contra hlate
    exact hearly (@sublist_of_not_mem past events front _ hsub hlate)
  obtain ⟨sn, hsn, hiff⟩ := stored_iff_of_backedUp hknown herased heffect hmem
  obtain ⟨b, c, found, stage, hmoved, _, hevents, _, hsnapshot⟩ := heffect.of_backedUp hmem
  cases hsn.symm.trans hsnapshot
  have hfront : front.Sublist past := by
    subst hevents
    rcases @sublist_concat past front _ _ hsub with hall | ⟨hfront, _⟩
    · exact absurd hall hearly
    · exact hfront
  have hobject : object = namer.objectName b.snapshot.volumeId b.snapshot.backupName := by
    have huploaded : .moved id .upload object ∈ past := hfront.subset (by simp [front])
    rw [(hknown.uploads.uploaded id b object found huploaded).1, Backup.object,
      (hknown.named.backups id b found).1]
    rfl
  intro hstored
  have hthere := hstored snapshotId b.snapshot hsnapshot
  exact hiff.mp hthere ⟨other, hobject ▸ hfront⟩

/-- What is overtaken in the first part of a run is overtaken. -/
theorem overtaken_of_part {d : Depot} {first stimuli : List Stimulus}
    (hpart : first <+: stimuli) (h : Overtaken (d.run first).2) :
    Overtaken (d.run stimuli).2 := by
  obtain ⟨rest, rfl⟩ := hpart
  rw [run_append]
  exact h.append _

/-- A run in which a backup is overtaken comes by a snapshot without its data. -/
theorem exists_not_stored {namer : ObjectNamer} {r : Registry} {store : MemoryStore}
    {stimuli : List Stimulus} (hempty : ∀ id, r.snapshot? id = none)
    (hfits : ∀ s ∈ stimuli, s.fits namer) (h : Overtaken ((start r store).run stimuli).2) :
    ∃ first, first <+: stimuli ∧ ¬ Stored namer ((start r store).run first).1 := by
  induction stimuli using List.reverseRecOn with
  | nil =>
      obtain ⟨_, _, _, _, hsub⟩ := h
      cases hsub
  | append_singleton stimuli s ih =>
      have hpast := fun t ht => hfits t (List.mem_append_left _ ht)
      by_cases hearly : Overtaken ((start r store).run stimuli).2
      · obtain ⟨first, hpart, hnot⟩ := ih hpast hearly
        exact ⟨first, hpart.trans (List.prefix_append _ _), hnot⟩
      · refine ⟨stimuli ++ [s], List.prefix_rfl, ?_⟩
        have htrace := trace_run r store stimuli
        rw [run_concat] at h ⊢
        exact not_stored_of_overtaken (known_trace htrace hempty hpast)
          (erased_trace htrace hempty hpast) (effect_step _ s) hearly h

/-- **Snapshots and their data.**  In a run that starts without snapshots every
snapshot has its data at all times exactly if no backup is overtaken by the deletion
of its object.  The snapshot of a backup that ends well has its data at that moment
exactly if nobody has deleted the object since the backup uploaded it. -/
theorem snapshots_stored_iff (namer : ObjectNamer) (r : Registry) (store : MemoryStore)
    (stimuli : List Stimulus) (hempty : ∀ id, r.snapshot? id = none)
    (hfits : ∀ s ∈ stimuli, s.fits namer) :
    ((∀ first, first <+: stimuli → Stored namer ((start r store).run first).1) ↔
        ¬ Overtaken ((start r store).run stimuli).2) ∧
      ∀ first s, first ++ [s] <+: stimuli → ∀ id snapshotId,
        .ended id (.ok (.backedUp snapshotId)) ∈ (((start r store).run first).1.step s).2 →
          ∃ sn, ((start r store).run (first ++ [s])).1.engine.registry.snapshot? snapshotId =
              some sn ∧
            (namer.objectName sn.volumeId sn.backupName ∈
                ((start r store).run (first ++ [s])).1.store.objects ↔
              ¬ ErasedSince id (namer.objectName sn.volumeId sn.backupName)
                ((start r store).run first).2) := by
  refine ⟨⟨?_, ?_⟩, ?_⟩
  · intro hstored hovertaken
    obtain ⟨first, hpart, hnot⟩ := exists_not_stored hempty hfits hovertaken
    exact hnot (hstored first hpart)
  · intro hnot first hpart
    have hfirst := fun s hs => hfits s (hpart.subset hs)
    rcases stored_trace (trace_run r store first) hempty hfirst with hovertaken | hstored
    · exact absurd (overtaken_of_part hpart hovertaken) hnot
    · exact hstored
  · intro first s hpart id snapshotId hmem
    have hfirst := fun t ht => hfits t (hpart.subset (List.mem_append_left [s] ht))
    have htrace := trace_run r store first
    rw [run_concat]
    exact stored_iff_of_backedUp (known_trace htrace hempty hfirst)
      (erased_trace htrace hempty hfirst) (effect_step _ s) hmem

/-- A backup whose object is deleted while its job is still at work, by a removal of
the snapshot to come. -/
def overtakenBackup : List Stimulus :=
  [.toEngine (.ordered (.default "mover:9000") (.backup "pvc-1" "daily-01")),
    .toEngine (.signalled 0 (.answered (.preserved (.ok ())))),
    .toEngine (.signalled 0 (.answered (.accepted (.ok ⟨.backup, "daily-01", "pvc-1", "apps"⟩)))),
    .toEngine (.signalled 0 (.answered (.moved true))),
    .toEngine (.ordered (.default "mover:9000") (.removal "pvc-1-velero-bkp-daily-01")),
    .toEngine (.signalled 1 (.answered (.located (.ok "apps")))),
    .toEngine (.signalled 1 (.answered (.retracted (.ok ())))),
    .toEngine (.signalled 1 (.answered (.moved true))),
    .toEngine (.woken 0 (.answered (.ok .done))), .toEngine (.signalled 0 .pollerExited)]

theorem snapshot_without_data :
    (∀ id, Engine.oneVolume.snapshot? id = none) ∧
      (∀ s ∈ overtakenBackup, s.fits .plain) ∧
      ((start Engine.oneVolume .empty).run overtakenBackup).2.getLast? =
        some (.ended 0 (.ok (.backedUp "pvc-1-velero-bkp-daily-01"))) ∧
      ¬ Stored .plain ((start Engine.oneVolume .empty).run overtakenBackup).1 := by
  have hkept : ((start Engine.oneVolume .empty).run overtakenBackup).1.engine.registry.snapshot?
      "pvc-1-velero-bkp-daily-01" = some ⟨"pvc-1", "daily-01", "apps"⟩ := by decide
  have hgone : ObjectNamer.plain.objectName "pvc-1" "daily-01" ∉
      ((start Engine.oneVolume .empty).run overtakenBackup).1.store.objects := by decide
  have hfits : ∀ s ∈ overtakenBackup, s.fits .plain := by decide
  have hended : ((start Engine.oneVolume .empty).run overtakenBackup).2.getLast? =
      some (.ended 0 (.ok (.backedUp "pvc-1-velero-bkp-daily-01"))) := rfl
  refine ⟨fun _ => rfl, hfits, hended, ?_⟩
  intro hstored
  have hthere := hstored "pvc-1-velero-bkp-daily-01" ⟨"pvc-1", "daily-01", "apps"⟩ hkept
  exact hgone hthere

/-- The same backup with nobody in its way. -/
def loneBackup : List Stimulus := overtakenBackup.take 4 ++ overtakenBackup.drop 8

theorem snapshots_stored_iff_daily :
    (∀ id, Engine.oneVolume.snapshot? id = none) ∧ (∀ s ∈ loneBackup, s.fits .plain) ∧
      ((start Engine.oneVolume .empty).run loneBackup).1.engine.registry.snapshot?
        "pvc-1-velero-bkp-daily-01" = some ⟨"pvc-1", "daily-01", "apps"⟩ ∧
      "daily-01/cstor-pvc-1" ∈ ((start Engine.oneVolume .empty).run loneBackup).1.store.objects ∧
      ¬ ErasedSince 0 "daily-01/cstor-pvc-1"
        ((start Engine.oneVolume .empty).run loneBackup.dropLast).2 := by
  have hempty : ∀ id, Engine.oneVolume.snapshot? id = none := fun _ => rfl
  have hfits : ∀ s ∈ loneBackup, s.fits .plain := by decide
  have hkept : ((start Engine.oneVolume .empty).run loneBackup).1.engine.registry.snapshot?
      "pvc-1-velero-bkp-daily-01" = some ⟨"pvc-1", "daily-01", "apps"⟩ := by decide
  have hthere : "daily-01/cstor-pvc-1" ∈
      ((start Engine.oneVolume .empty).run loneBackup).1.store.objects := by decide
  have hlast : loneBackup.dropLast ++ [.toEngine (.signalled 0 .pollerExited)] = loneBackup := rfl
  have hended : .ended 0 (.ok (.backedUp "pvc-1-velero-bkp-daily-01")) ∈
      (((start Engine.oneVolume .empty).run loneBackup.dropLast).1.step
        (.toEngine (.signalled 0 .pollerExited))).2 := List.mem_singleton.mpr rfl
  obtain ⟨sn, hsn, hiff⟩ := (snapshots_stored_iff .plain Engine.oneVolume .empty loneBackup hempty
    hfits).2 _ _ (hlast ▸ List.prefix_rfl) _ _ hended
  rw [hlast, hkept] at hsn
  rw [hlast, ← Option.some.inj hsn] at hiff
  exact ⟨hempty, hfits, hkept, hthere, hiff.mp hthere⟩

end Depot

end SnapshotEngine
