import SnapshotEngine.Proofs.Depot.Run
import SnapshotEngine.Proofs.Engine.Attempts
import SnapshotEngine.Proofs.Engine.WellFormed

/-!
# Removals that are repeated until they succeed

A removal may fail at the control plane or at the object store.  Either way the snapshot is
kept and the next removal starts over with it, so nothing is ever half deleted for good:
whatever has failed so far, one removal that both sides go along with takes the object and
the snapshot away.

* `settling`, `run_settling` — a removal that both sides go along with;
* `step_removal` — a removal that starts;
* `removals_start_over` — any number of removals of one snapshot.
-/

namespace SnapshotEngine

namespace Depot

/-- The answers that bring a removal to a good end, from the time on at which it has asked
for the backup to be deleted. -/
def settling (j : Nat) (result : Except ControlPlaneError Unit) : List Stimulus :=
  [.toEngine (.signalled j (.answered (.retracted result))),
    .toEngine (.signalled j (.answered (.moved true)))]

/-- A removal that both sides go along with deletes the object and forgets the snapshot. -/
theorem run_settling {d : Depot} {j : Nat} {x : Removal} {sn : Snapshot}
    {result : Except ControlPlaneError Unit}
    (found : d.engine.operations.get? j = some (.removal x)) (stage : x.stage = .retracting sn)
    (gone : Removal.Retracts result) (works : d.store.deletionsFail = false) :
    let after := d.run (settling j result)
    after.2 = [.answered j sn.retraction (.retracted result),
        .called j (sn.erasure x.settings),
        .answered j (sn.erasure x.settings) (.moved true), .ended j (.ok .deleted)] ∧
      after.1.engine.registry = d.engine.registry.removeSnapshot x.snapshotId ∧
      after.1.store = d.store.take (x.settings.namer.objectName sn.volumeId sn.backupName) := by
  intro after
  let next : Removal := { x with stage := .erasing sn }
  have hresume : (Operation.removal x).resume d.engine.registry (.answered (.retracted result)) =
      some (.waits d.engine.registry (.removal next)) := by
    simp only [Operation.resume, Removal.resume_retracting stage gone, Option.map_some,
      Progress.map, next]
  have hcall : (Operation.removal x).call? = some sn.retraction := by
    simp only [Operation.call?, Removal.call?, stage, Snapshot.retraction]
  let asked : Depot := { d with engine := d.engine.keep j d.engine.registry (.removal next) }
  have hasked : d.step (.toEngine (.signalled j (.answered (.retracted result)))) =
      (asked, [.answered j sn.retraction (.retracted result),
        .called j (sn.erasure x.settings)]) := by
    rw [step_toEngine (fun _ _ heq => by cases heq), Engine.step_goesOn found rfl hresume]
    simp only [Engine.answerEvents, hcall]
    rfl
  have hfound : asked.engine.operations.get? j = some (.removal next) := by
    simp only [asked]
    rw [Engine.get?_operations_keep, if_pos rfl]
  have hwaits : (Operation.removal next).call? = some (sn.erasure x.settings) := rfl
  have hmove : asked.store.move (x.settings.namer.objectName sn.volumeId sn.backupName) .delete =
      some (true, d.store.take (x.settings.namer.objectName sn.volumeId sn.backupName)) := by
    simp [asked, MemoryStore.move, works]
  have hends : (Operation.removal next).resume asked.engine.registry (.answered (.moved true)) =
      some (.ends (asked.engine.registry.removeSnapshot x.snapshotId) (.ok .deleted)) := by
    have hstage : next.stage = .erasing sn := rfl
    simp only [Operation.resume, Removal.resume_erasing hstage, Option.map_some, Progress.map, next]
  have hregistry : asked.engine.registry = d.engine.registry := Engine.registry_keep ..
  have hdeleted := step_moved hfound hwaits hmove
  rw [Engine.step_ends hfound rfl hends] at hdeleted
  simp only [after, settling, run, hasked, hdeleted, and_true]
  refine ⟨?_, ?_⟩
  · simp only [Engine.answerEvents, hwaits, List.append_nil, List.cons_append, List.nil_append]
  · rw [hregistry]
    rfl

/-- A removal that is ordered and starts is at work under the next number. -/
theorem step_removal {d : Depot} {settings : Settings} {id : String} {r : Registry} {x : Removal}
    (hstart : Removal.start d.engine.registry settings id = .waits r x) :
    let after := d.step (.toEngine (.ordered settings (.removal id)))
    after.2 = Engine.callEvents d.engine.next (.removal x) ∧
      after.1.engine.operations.get? d.engine.next = some (.removal x) ∧
      after.1.engine.registry = r ∧ after.1.store = d.store := by
  intro after
  have horder : Operation.start d.engine.registry settings (.removal id) =
      .waits r (.removal x) := by
    simp only [Operation.start, hstart, Progress.map]
  have hstep : after =
      (⟨{ d.engine with next := d.engine.next + 1 }.keep d.engine.next r (.removal x), d.store⟩,
        Engine.callEvents d.engine.next (.removal x)) := by
    simp only [after]
    rw [step_toEngine (fun _ _ heq => by cases heq)]
    simp only [Engine.step, Engine.order, horder]
  rw [hstep]
  refine ⟨rfl, ?_, Engine.registry_keep .., rfl⟩
  rw [Engine.get?_operations_keep, if_pos rfl]

/-- A removal of a snapshot that is kept asks for the backup to be deleted at once. -/
theorem step_removal_of_cached {d : Depot} {id : String} {sn : Snapshot}
    (hcached : d.engine.registry.snapshot? id = some sn) (hcomplete : sn.missingField = none)
    (settings : Settings) :
    let after := d.step (.toEngine (.ordered settings (.removal id)))
    after.2 = [.called d.engine.next sn.retraction] ∧
      after.1.engine.operations.get? d.engine.next =
        some (.removal ⟨settings, id, .retracting sn⟩) ∧
      after.1.engine.registry = d.engine.registry ∧ after.1.store = d.store := by
  have hstart : Removal.start d.engine.registry settings id =
      .waits d.engine.registry ⟨settings, id, .retracting sn⟩ := by
    simp only [Removal.start, hcached, Removal.retract, hcomplete]
  exact step_removal hstart

/-- A removal of a snapshot that is kept, and that both sides go along with, takes the object
and the snapshot away, and nothing else from the store. -/
theorem run_removal_of_cached {d : Depot} {id : String} {sn : Snapshot}
    {result : Except ControlPlaneError Unit}
    (hcached : d.engine.registry.snapshot? id = some sn) (hcomplete : sn.missingField = none)
    (settings : Settings) (gone : Removal.Retracts result)
    (works : d.store.deletionsFail = false) :
    let after := d.run (.toEngine (.ordered settings (.removal id)) ::
      settling d.engine.next result)
    .ended d.engine.next (.ok .deleted) ∈ after.2 ∧
      after.1.engine.registry.snapshot? id = none ∧
      ∀ object, object ∈ after.1.store.objects ↔
        object ≠ settings.namer.objectName sn.volumeId sn.backupName ∧
          object ∈ d.store.objects := by
  intro after
  obtain ⟨_, hfound, hregistry, hstore⟩ := step_removal_of_cached hcached hcomplete settings
  obtain ⟨hevents, hforgets, htakes⟩ := run_settling hfound rfl gone (hstore ▸ works)
  refine ⟨?_, ?_, ?_⟩
  · refine List.mem_append_right _ ?_
    rw [hevents]
    simp
  · refine (congrArg (Registry.snapshot? · id) hforgets).trans ?_
    rw [Registry.snapshot?_removeSnapshot, if_pos rfl]
  · intro object
    refine (iff_of_eq (congrArg (object ∈ ·.objects) htakes)).trans ?_
    rw [MemoryStore.mem_objects_take, hstore]

/-- **Removals start over.**  Take a snapshot that is kept and of which nothing is missing,
and any run after that in which no backup of its identifier is confirmed.  Until a removal
of the identifier has ended well, every removal of it is an attempt on that very snapshot:
it sends the same command, has the object deleted exactly if the backup is gone, succeeds
exactly if both are, and changes nothing if it fails.  The snapshot is kept until the first
success and gone from then on.  And however many attempts have failed, with a store that
deletes and a control plane that does not refuse one more takes the object and the snapshot
away. -/
theorem removals_start_over {r : Registry} {first rest : List SnapshotEngine.Stimulus}
    {id : String} {sn : Snapshot}
    (hcached : ((Engine.ofRegistry r).run first).1.registry.snapshot? id = some sn)
    (hcomplete : sn.missingField = none)
    (hquiet : ∀ k, .ended k (.ok (.backedUp id)) ∉
      (((Engine.ofRegistry r).run first).1.run rest).2) :
    let e := ((Engine.ofRegistry r).run first).1
    (∀ before settings after, rest = before ++ .ordered settings (.removal id) :: after →
      ¬ Removed (ordersOf (first ++ before)) id (e.run before).2 →
        Engine.Attempted r (first ++ rest) settings sn (e.run before).1.next) ∧
    (∀ before after, rest = before ++ after →
      (Removed (ordersOf (first ++ before)) id (e.run before).2 →
        (e.run before).1.registry.snapshot? id = none) ∧
      (¬ Removed (ordersOf (first ++ before)) id (e.run before).2 →
        (e.run before).1.registry.snapshot? id = some sn)) ∧
    (¬ Removed (ordersOf (first ++ rest)) id (e.run rest).2 →
      ∀ (store : MemoryStore) (settings : Settings) (result : Except ControlPlaneError Unit),
        store.deletionsFail = false → Removal.Retracts result →
          let j := (e.run rest).1.next
          let after := (Depot.mk (e.run rest).1 store).run
            (.toEngine (.ordered settings (.removal id)) :: settling j result)
          .ended j (.ok .deleted) ∈ after.2 ∧
            after.1.engine.registry.snapshot? id = none ∧
            ∀ object, object ∈ after.1.store.objects ↔
              object ≠ settings.namer.objectName sn.volumeId sn.backupName ∧
                object ∈ store.objects) := by
  intro e
  have hkept : ∀ before after, rest = before ++ after →
      (Removed (ordersOf (first ++ before)) id (e.run before).2 →
        (e.run before).1.registry.snapshot? id = none) ∧
      (¬ Removed (ordersOf (first ++ before)) id (e.run before).2 →
        (e.run before).1.registry.snapshot? id = some sn) := by
    rintro before after rfl
    have hearly : ∀ k, .ended k (.ok (.backedUp id)) ∉ (e.run before).2 := by
      intro k hmem
      apply hquiet k
      rw [Engine.run_append]
      exact List.mem_append_left _ hmem
    obtain ⟨hgone, hsame⟩ := Engine.snapshot?_run hearly
    exact ⟨hgone, fun hnot => (hsame hnot).trans hcached⟩
  refine ⟨?_, hkept, ?_⟩
  · rintro before settings after rfl hnot
    have hbefore := (hkept before _ rfl).2 hnot
    have hengine : ((Engine.ofRegistry r).run (first ++ before)).1 = (e.run before).1 := by
      rw [Engine.run_append]
    rw [← hengine] at hbefore ⊢
    rw [← List.append_assoc]
    exact Engine.attempted_of_cached hbefore hcomplete settings after
  · intro hnot store settings result works gone
    have hend := (hkept rest [] (List.append_nil rest).symm).2 hnot
    exact run_removal_of_cached (d := ⟨(e.run rest).1, store⟩) hend hcomplete settings gone works

/-- A removal of a snapshot, with an object that is not to be deleted. -/
def failedRemoval : List SnapshotEngine.Stimulus :=
  [.ordered (.default "mover:9000") (.removal "pvc-1-velero-bkp-daily-01"),
    .signalled 1 (.answered (.retracted (.error (.rejected 404 "gone")))),
    .signalled 1 (.answered (.moved false))]

theorem removals_start_over_daily :
    let id := "pvc-1-velero-bkp-daily-01"
    let sn : Snapshot := ⟨"pvc-1", "daily-01", "apps"⟩
    let e := ((Engine.ofRegistry .empty).run Engine.backupKept).1
    let store := { MemoryStore.empty with objects := ["daily-01/cstor-pvc-1"] }
    let after := (Depot.mk (e.run failedRemoval).1 store).run
      (.toEngine (.ordered (.default "mover:9000") (.removal id)) :: settling 2 (.ok ()))
    e.registry.snapshot? id = some sn ∧ sn.missingField = none ∧
      (∀ k, .ended k (.ok (.backedUp id)) ∉ (e.run failedRemoval).2) ∧
      ¬ Removed (ordersOf (Engine.backupKept ++ failedRemoval)) id (e.run failedRemoval).2 ∧
      Engine.Attempted .empty (Engine.backupKept ++ failedRemoval) (.default "mover:9000") sn 1 ∧
      (e.run failedRemoval).1.registry.snapshot? id = some sn ∧
      .ended 2 (.ok .deleted) ∈ after.2 ∧ after.1.engine.registry.snapshot? id = none ∧
      "daily-01/cstor-pvc-1" ∉ after.1.store.objects := by
  intro id sn e store after
  have hcached : e.registry.snapshot? id = some sn := by decide +kernel
  have hcomplete : sn.missingField = none := by decide +kernel
  have hevents : (e.run failedRemoval).2 =
      [.called 1 (.deleteBackup "pvc-1" "daily-01" "apps"),
        .answered 1 (.deleteBackup "pvc-1" "daily-01" "apps")
          (.retracted (.error (.rejected 404 "gone"))),
        .called 1 (.move .delete "daily-01/cstor-pvc-1"),
        .answered 1 (.move .delete "daily-01/cstor-pvc-1") (.moved false),
        .ended 1 (.error (.remoteDeleteFailed "daily-01/cstor-pvc-1"))] := rfl
  have hquiet : ∀ k, .ended k (.ok (.backedUp id)) ∉ (e.run failedRemoval).2 := by
    intro k
    simp [hevents]
  have hunremoved : ∀ orders, ¬ Removed orders id (e.run failedRemoval).2 := by
    rintro orders ⟨j, settings, _, hmem⟩
    simp [hevents] at hmem
  obtain ⟨hattempts, hkept, hfinally⟩ := removals_start_over hcached hcomplete hquiet
  have hattempt := hattempts [] _ _ rfl fun ⟨_, _, _, hmem⟩ => absurd hmem List.not_mem_nil
  have hstays := (hkept failedRemoval [] (List.append_nil _).symm).2 (hunremoved _)
  obtain ⟨hended, hgone, hobjects⟩ := hfinally (hunremoved _) store (.default "mover:9000") (.ok ())
    rfl (.inl rfl)
  refine ⟨hcached, hcomplete, hquiet, hunremoved _, hattempt, hstays, hended, hgone, ?_⟩
  intro hmem
  exact ((hobjects _).mp hmem).1 rfl

end Depot

end SnapshotEngine
