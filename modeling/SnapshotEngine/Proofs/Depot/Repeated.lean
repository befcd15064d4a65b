import SnapshotEngine.Proofs.Depot.Attempts
import SnapshotEngine.Proofs.Depot.Isolation

/-!
# Removals that are repeated after they succeeded

A removal that has ended well has forgotten its snapshot, so the next one has nothing but
the identifier to go by and asks the directory for the namespace.  It does as well as the
first if the first had to ask, too.  The first may have had the snapshot in hand, though,
and then nobody has asked the directory yet: it may not know the volume any more.

* `MadeUp` — the snapshot that an identifier and the directory make up;
* `run_removal_of_madeUp`, `run_removal_of_not_madeUp` — a removal without a snapshot in hand;
* `removal_repeats_iff` — the removal after one that has ended well;
* `repeated_removal_fails` — one that fails.
-/

namespace SnapshotEngine

/-- The snapshot that an identifier and the answer of the directory make up. -/
def MadeUp (id : String) (found : Except DirectoryError String) (sn : Snapshot) : Prop :=
  SnapshotId.decode id = .ok (sn.volumeId, sn.backupName) ∧ found = .ok sn.claimNamespace ∧
    sn.missingField = none

namespace Depot

/-! ## A removal without a snapshot in hand -/

/-- What comes for an operation that is not there changes nothing, in the store neither. -/
theorem step_signal_of_absent {d : Depot} {j : Nat} (h : d.engine.operations.get? j = none)
    (signal : Signal) : d.step (.toEngine (.signalled j signal)) = (d, []) := by
  have htransfer : d.transfer? (.signalled j signal) = none := by
    unfold transfer?
    split
    · rename_i id done heq
      cases heq
      simp [h]
    · rfl
  simp only [step, htransfer, Engine.step_signal_of_absent h]

theorem run_settling_of_absent {d : Depot} {j : Nat} (h : d.engine.operations.get? j = none)
    (result : Except ControlPlaneError Unit) : d.run (settling j result) = (d, []) := by
  simp only [settling, run, step_signal_of_absent h, List.append_nil]

/-- Told of a namespace, a removal asks for the backup to be deleted. -/
theorem step_located {d : Depot} {j : Nat} {x : Removal} {sn : Snapshot}
    (found : d.engine.operations.get? j = some (.removal x))
    (stage : x.stage = .locating sn.volumeId sn.backupName) (complete : sn.missingField = none) :
    let after := d.step (.toEngine (.signalled j (.answered (.located (.ok sn.claimNamespace)))))
    after.1.engine.operations.get? j = some (.removal { x with stage := .retracting sn }) ∧
      after.1.engine.registry = d.engine.registry ∧ after.1.store = d.store := by
  intro after
  have hresume : (Operation.removal x).resume d.engine.registry
      (.answered (.located (.ok sn.claimNamespace))) =
        some (.waits d.engine.registry (.removal { x with stage := .retracting sn })) := by
    simp only [Operation.resume, Removal.resume_located stage complete, Option.map_some,
      Progress.map]
  have hstep : after.1 =
      ⟨d.engine.keep j d.engine.registry (.removal { x with stage := .retracting sn }),
        d.store⟩ := by
    simp only [after]
    rw [step_toEngine (fun _ _ heq => by cases heq), Engine.step_goesOn found rfl hresume]
  rw [hstep]
  refine ⟨?_, Engine.registry_keep .., rfl⟩
  rw [Engine.get?_operations_keep, if_pos rfl]

/-- Without a namespace, or with a blank one, the removal is over. -/
theorem step_unlocated {d : Depot} {j : Nat} {x : Removal} {volumeId backupName : String}
    {answer : Except DirectoryError String}
    (found : d.engine.operations.get? j = some (.removal x))
    (stage : x.stage = .locating volumeId backupName)
    (incomplete : ∀ claimNamespace, answer = .ok claimNamespace →
      (Snapshot.mk volumeId backupName claimNamespace).missingField ≠ none) :
    let after := d.step (.toEngine (.signalled j (.answered (.located answer))))
    (∃ cause, after.2 = [.answered j (.claimNamespace volumeId) (.located answer),
        .ended j (.error cause)]) ∧
      after.1.engine.operations.get? j = none ∧
      after.1.engine.registry = d.engine.registry ∧ after.1.store = d.store := by
  intro after
  obtain ⟨cause, hends⟩ := Removal.resume_unlocated stage incomplete d.engine.registry
  have hresume : (Operation.removal x).resume d.engine.registry (.answered (.located answer)) =
      some (.ends d.engine.registry (.error cause)) := by
    simp only [Operation.resume, hends, Option.map_some, Progress.map]
  have hcall : (Operation.removal x).call? = some (.claimNamespace volumeId) := by
    simp only [Operation.call?, Removal.call?, stage]
  have hstep : after =
      (⟨d.engine.remove j (.removal x), d.store⟩,
        [.answered j (.claimNamespace volumeId) (.located answer), .ended j (.error cause)]) := by
    simp only [after]
    rw [step_toEngine (fun _ _ heq => by cases heq), Engine.step_ends found rfl hresume]
    simp only [Engine.answerEvents, hcall, List.cons_append, List.nil_append]
  rw [hstep]
  refine ⟨⟨cause, rfl⟩, ?_, rfl, rfl⟩
  rw [Engine.get?_operations_remove, if_pos rfl]

/-- A removal that has to ask for the namespace, from its order to its end. -/
def askingRemoval (settings : Settings) (id : String) (j : Nat) (found : Except DirectoryError String)
    (result : Except ControlPlaneError Unit) : List Stimulus :=
  .toEngine (.ordered settings (.removal id)) ::
    .toEngine (.signalled j (.answered (.located found))) :: settling j result

variable {d : Depot} {id : String} {found : Except DirectoryError String}
  {result : Except ControlPlaneError Unit} (settings : Settings)

/-- With nothing kept under its identifier, a removal looks the namespace up. -/
theorem step_removal_of_read {volumeId backupName : String}
    (hnone : d.engine.registry.snapshot? id = none)
    (hdecode : SnapshotId.decode id = .ok (volumeId, backupName)) :
    let after := d.step (.toEngine (.ordered settings (.removal id)))
    after.2 = [.called d.engine.next (.claimNamespace volumeId)] ∧
      after.1.engine.operations.get? d.engine.next =
        some (.removal ⟨settings, id, .locating volumeId backupName⟩) ∧
      after.1.engine.registry = d.engine.registry ∧ after.1.store = d.store := by
  have hstart : Removal.start d.engine.registry settings id =
      .waits d.engine.registry ⟨settings, id, .locating volumeId backupName⟩ := by
    simp only [Removal.start, hnone, hdecode]
  exact step_removal hstart

/-- A snapshot that can be made up is deleted like one that is kept. -/
theorem run_removal_of_madeUp {sn : Snapshot} (hnone : d.engine.registry.snapshot? id = none)
    (hmade : MadeUp id found sn) (gone : Removal.Retracts result)
    (works : d.store.deletionsFail = false) :
    let after := d.run (askingRemoval settings id d.engine.next found result)
    .ended d.engine.next (.ok .deleted) ∈ after.2 ∧
      after.1.engine.registry = d.engine.registry ∧
      after.1.store = d.store.take (settings.namer.objectName sn.volumeId sn.backupName) := by
  intro after
  obtain ⟨hdecode, rfl, hcomplete⟩ := hmade
  obtain ⟨_, hordered, hregistry, hstore⟩ := step_removal_of_read settings hnone hdecode
  obtain ⟨hlocated, hregistry', hstore'⟩ := step_located hordered rfl hcomplete
  obtain ⟨hevents, hforgets, htakes⟩ :=
    run_settling hlocated rfl gone ((congrArg _ (hstore'.trans hstore)).trans works)
  refine ⟨?_, ?_, ?_⟩
  · refine List.mem_append_right _ (List.mem_append_right _ ?_)
    rw [hevents]
    simp
  · have hsame := hregistry'.trans hregistry
    refine hforgets.trans ?_
    rw [hsame]
    exact Registry.removeSnapshot_eq_self hnone
  · refine htakes.trans ?_
    rw [hstore', hstore]

/-- Without a snapshot to make up, the removal fails and changes nothing. -/
theorem run_removal_of_not_madeUp (hnone : d.engine.registry.snapshot? id = none)
    (habsent : d.engine.operations.get? d.engine.next = none)
    (hnot : ∀ sn, ¬ MadeUp id found sn) :
    let after := d.run (askingRemoval settings id d.engine.next found result)
    (∃ cause, .ended d.engine.next (.error cause) ∈ after.2) ∧
      .ended d.engine.next (.ok .deleted) ∉ after.2 ∧
      after.1.engine.registry = d.engine.registry ∧ after.1.store = d.store := by
  intro after
  cases hdecode : SnapshotId.decode id with
  | error cause =>
      have horder : Operation.start d.engine.registry settings (.removal id) =
          .ends d.engine.registry (.error (.malformedIdentifier cause)) := by
        simp only [Operation.start, Removal.start, hnone, hdecode, Progress.map]
      have hstep : d.step (.toEngine (.ordered settings (.removal id))) =
          (⟨{ d.engine with next := d.engine.next + 1 }, d.store⟩,
            [.ended d.engine.next (.error (.malformedIdentifier cause))]) := by
        rw [step_toEngine (fun _ _ heq => by cases heq)]
        simp only [Engine.step, Engine.order, horder]
      have hgone : (Depot.mk { d.engine with next := d.engine.next + 1 }
          d.store).engine.operations.get? d.engine.next = none := habsent
      have hafter : after = (⟨{ d.engine with next := d.engine.next + 1 }, d.store⟩,
          [.ended d.engine.next (.error (.malformedIdentifier cause))]) := by
        simp only [after, askingRemoval, run, hstep, step_signal_of_absent hgone,
          run_settling_of_absent hgone, List.append_nil]
      rw [hafter]
      exact ⟨⟨_, List.mem_singleton_self _⟩, by simp, rfl, rfl⟩
  | ok parts =>
      obtain ⟨volumeId, backupName⟩ := parts
      obtain ⟨hcalled, hordered, hregistry, hstore⟩ := step_removal_of_read settings hnone hdecode
      obtain ⟨⟨cause, hended⟩, hgone, hregistry', hstore'⟩ := step_unlocated hordered rfl
        fun claimNamespace heq hcomplete =>
          hnot ⟨volumeId, backupName, claimNamespace⟩ ⟨hdecode, heq, hcomplete⟩
      simp only [after, askingRemoval, run, run_settling_of_absent hgone, hcalled, hended,
        List.append_nil]
      exact ⟨⟨cause, by simp⟩, by simp, hregistry'.trans hregistry, hstore'.trans hstore⟩

/-! ## A removal after another -/

/-- A removal that ends well has had its object deleted, and forgets its snapshot. -/
theorem Effect.of_deleted {d d' : Depot} {s : Stimulus} {events : List Event} {j : Nat}
    (h : Effect d s d' events) (hmem : .ended j (.ok .deleted) ∈ events) :
    ∃ x sn, d.engine.operations.get? j = some (.removal x) ∧ x.stage = .erasing sn ∧
      d.store.move (x.object sn) .delete = some (true, d'.store) ∧
      d'.engine.registry.snapshot? x.snapshotId = none := by
  have hengine : ∃ x sn, d.engine.operations.get? j = some (.removal x) ∧ x.stage = .erasing sn ∧
      .moved j .delete (x.object sn) ∈ events ∧
      d'.engine.registry.snapshots = d.engine.registry.snapshots.erase x.snapshotId := by
    cases h with
    | arranged | arrived | waiting => cases hmem
    | stepped other => exact (Engine.effect_step _ _).of_deleted hmem
    | moved found call move => exact (Engine.effect_step _ _).of_deleted hmem
  obtain ⟨x, sn, found, stage, hmoved, hsnapshots⟩ := hengine
  obtain ⟨op, found', call, move⟩ := of_moved h hmoved
  refine ⟨x, sn, found, stage, move, ?_⟩
  unfold Registry.snapshot?
  rw [hsnapshots, Table.get?_erase, if_pos rfl]

/-- A store that has deleted an object does so again. -/
theorem deletionsFail_of_deleted {store store' : MemoryStore} {object : String}
    (h : store.move object .delete = some (true, store')) :
    store'.deletionsFail = false ∧ object ∉ store'.objects := by
  refine ⟨?_, fun hmem => ((MemoryStore.mem_objects_delete h object).mp hmem).1 rfl⟩
  simp only [MemoryStore.move] at h
  split at h
  · cases h
  · rename_i hworks
    cases h
    exact Bool.not_eq_true _ ▸ hworks

/-- A removal that is about to delete an object has looked the namespace up, or else it was
given the snapshot of a backup that has ended well. -/
theorem made_or_backedUp_of_erasing {r : Registry} {stimuli : List SnapshotEngine.Stimulus}
    {e : Engine} {events : List Event} {j : Nat} {x : Removal} {sn : Snapshot}
    (h : Engine.Trace r stimuli e events) (hempty : ∀ id, r.snapshot? id = none)
    (found : e.operations.get? j = some (.removal x)) (stage : x.stage = .erasing sn) :
    (∀ answer, .located answer ∈ repliesTo j events → MadeUp x.snapshotId answer sn) ∧
      ((∀ answer, .located answer ∉ repliesTo j events) →
        BackedUp (ordersOf stimuli) events x.snapshotId sn.volumeId sn.backupName ∧
          sn.missingField = none) := by
  obtain ⟨settings, order, horder, hserves⟩ := (Engine.serving_trace h).serves j _ found
  obtain ⟨rfl, rfl⟩ := hserves.of_removal
  obtain ⟨start, stands, hfollows⟩ := Engine.followed_trace h hempty j _ _ horder
  obtain ⟨_, heq, hstands⟩ := hfollows.stage _ found
  cases heq
  rw [stage] at hstands
  have hcourse := hfollows.course
  rw [hstands] at hcourse
  cases hfollows.begins with
  | cached settings source housed =>
      rw [Removal.standing_retract, ← Removal.standing_retract .empty x.settings ""] at hcourse
      obtain ⟨rfl, hcomplete, result, hreplies⟩ := Removal.erasing_of_course_retract hcourse
      rw [hreplies]
      exact ⟨fun answer hmem => by simp at hmem, fun _ => ⟨source, hcomplete⟩⟩
  | read decode =>
      obtain ⟨claimNamespace, result, hreplies, rfl, hcomplete⟩ :=
        Removal.erasing_of_course_locating hcourse
      rw [hreplies]
      refine ⟨fun answer hmem => ?_, fun hnone => absurd (List.mem_cons_self ..) (hnone _)⟩
      simp only [List.mem_cons, Answer.located.injEq, reduceCtorEq, List.not_mem_nil,
        or_false] at hmem
      exact ⟨decode, hmem, hcomplete⟩
  | malformed decode => cases (Removal.answers_of_course_ended hcourse).2

/-- A removal that ends well and finds nothing to change. -/
structure Repeats (d : Depot) (settings : Settings) (id : String)
    (found : Except DirectoryError String) (result : Except ControlPlaneError Unit) : Prop where
  succeeds : .ended d.engine.next (.ok .deleted) ∈
    (d.run (askingRemoval settings id d.engine.next found result)).2
  registry : (d.run (askingRemoval settings id d.engine.next found result)).1.engine.registry =
    d.engine.registry
  store : (d.run (askingRemoval settings id d.engine.next found result)).1.store = d.store

/-- Without a snapshot in hand, a removal ends well and finds nothing to change exactly if
there is a snapshot to make up and its object is not there. -/
theorem repeats_iff (hnone : d.engine.registry.snapshot? id = none)
    (habsent : d.engine.operations.get? d.engine.next = none)
    (gone : Removal.Retracts result) (works : d.store.deletionsFail = false) :
    Repeats d settings id found result ↔
      ∃ sn, MadeUp id found sn ∧
        settings.namer.objectName sn.volumeId sn.backupName ∉ d.store.objects := by
  constructor
  · rintro ⟨hsucceeds, _, hstore⟩
    by_cases hmade : ∃ sn, MadeUp id found sn
    · obtain ⟨sn, hmade⟩ := hmade
      obtain ⟨_, _, htakes⟩ := run_removal_of_madeUp settings hnone hmade gone works
      exact ⟨sn, hmade, MemoryStore.take_eq_self_iff.mp (htakes.symm.trans hstore)⟩
    · have hnot := fun sn hsn => hmade ⟨sn, hsn⟩
      exact absurd hsucceeds (run_removal_of_not_madeUp settings hnone habsent hnot).2.1
  · rintro ⟨sn, hmade, hobject⟩
    obtain ⟨hends, hregistry, htakes⟩ := run_removal_of_madeUp settings hnone hmade gone works
    exact ⟨hends, hregistry, htakes.trans (MemoryStore.take_eq_self_iff.mpr hobject)⟩

/-- **Repeated removals.**  Take a run that starts without snapshots and a step of it with
which a removal ends well, and order another removal of the same identifier, from a control
plane and a store that go along with it.  It ends well, and leaves registry and store as they
are, exactly if the identifier and what the directory now answers make up a snapshot of which
the object is gone.  If the first removal was told the same by the directory, that is so.  If
it had the snapshot in hand, that is so exactly if the directory names a namespace which is
not blank.  Without a snapshot to make up, the second removal fails. -/
theorem removal_repeats_iff {r : Registry} {store : MemoryStore} {stimuli : List Stimulus}
    {s : Stimulus} {j : Nat} {settings settings' : Settings} {id : String}
    {result : Except ControlPlaneError Unit} (found : Except DirectoryError String)
    (hempty : ∀ id, r.snapshot? id = none)
    (horder : (placed stimuli)[j]? = some (settings, .removal id))
    (hended : .ended j (.ok .deleted) ∈ (((start r store).run stimuli).1.step s).2)
    (hnamer : settings'.namer = settings.namer) (gone : Removal.Retracts result) :
    let past := ((start r store).run stimuli).2
    let d := (((start r store).run stimuli).1.step s).1
    (Repeats d settings' id found result ↔
      ∃ sn, MadeUp id found sn ∧
        settings.namer.objectName sn.volumeId sn.backupName ∉ d.store.objects) ∧
    (.located found ∈ repliesTo j past → Repeats d settings' id found result) ∧
    ((∀ answer, .located answer ∉ repliesTo j past) →
      (∀ volumeId backupName, BackedUp (placed stimuli) past id volumeId backupName →
        ¬ SnapshotId.OpensSeparator volumeId) →
      (Repeats d settings' id found result ↔
        ∃ claimNamespace, found = .ok claimNamespace ∧ Text.blank claimNamespace = false)) ∧
    ((∀ sn, ¬ MadeUp id found sn) →
      let after := d.run (askingRemoval settings' id d.engine.next found result)
      (∃ cause, .ended d.engine.next (.error cause) ∈ after.2) ∧
        after.1.engine.registry = d.engine.registry ∧ after.1.store = d.store) := by
  intro past d
  have htrace : Trace r store stimuli ((start r store).run stimuli).1 past := trace_run r store _
  obtain ⟨performed, hengine, horders⟩ := htrace.performed
  obtain ⟨performed', hengine', _⟩ := (htrace.step s).performed
  have habsent := (Engine.owned_trace hengine').absent_next.1
  obtain ⟨x, sn, hfound, hstage, hmove, hnone⟩ := (effect_step _ s).of_deleted hended
  obtain ⟨works, hobject⟩ := deletionsFail_of_deleted hmove
  obtain ⟨_, _, horder', hserves⟩ := (Engine.serving_trace hengine).serves j _ hfound
  obtain ⟨rfl, rfl⟩ := hserves.of_removal
  rw [horders] at horder'
  cases horder.symm.trans horder'
  obtain ⟨htold, hkept⟩ := made_or_backedUp_of_erasing hengine hempty hfound hstage
  rw [horders] at hkept
  have hobject' : x.settings.namer.objectName sn.volumeId sn.backupName ∉ d.store.objects :=
    hobject
  have hiff : Repeats d settings' x.snapshotId found result ↔
      ∃ sn, MadeUp x.snapshotId found sn ∧
        x.settings.namer.objectName sn.volumeId sn.backupName ∉ d.store.objects := by
    rw [← hnamer]
    exact repeats_iff settings' hnone habsent gone works
  refine ⟨hiff, fun hlocated => hiff.mpr ⟨sn, htold found hlocated, hobject'⟩, ?_, ?_⟩
  · intro hcached hopen
    obtain ⟨hbackedUp, hcomplete⟩ := hkept hcached
    have hdecode := SnapshotId.decode_of_encode hbackedUp.1 (hopen _ _ hbackedUp)
    obtain ⟨hvolume, hbackup, _⟩ := Snapshot.missingField_eq_none_iff.mp hcomplete
    rw [hiff]
    constructor
    · rintro ⟨sn', ⟨_, hfound', hcomplete'⟩, _⟩
      exact ⟨_, hfound', (Snapshot.missingField_eq_none_iff.mp hcomplete').2.2⟩
    · rintro ⟨claimNamespace, rfl, hnamed⟩
      refine ⟨⟨sn.volumeId, sn.backupName, claimNamespace⟩, ⟨hdecode, rfl, ?_⟩, hobject'⟩
      exact Snapshot.missingField_eq_none_iff.mpr ⟨hvolume, hbackup, hnamed⟩
  · intro hnot
    obtain ⟨hfails, _, hsame⟩ := run_removal_of_not_madeUp settings' hnone habsent hnot
    exact ⟨hfails, hsame⟩

/-- A backup and the removal of its snapshot, up to the deletion of the object. -/
def backupRemoved : List Stimulus :=
  [discovered "pvc-1"] ++ backupRun 0 "pvc-1" "daily-01" ++
    removalRun 1 "pvc-1-velero-bkp-daily-01"

/-- The snapshot was kept, so the first removal has not asked for the volume, which is gone by
now; the second one does, and fails. -/
theorem repeated_removal_fails :
    let id := "pvc-1-velero-bkp-daily-01"
    let first := ((start .empty .empty).run backupRemoved).1.step
      (.toEngine (.signalled 1 (.answered (.moved true))))
    let second := first.1.run
      (askingRemoval (.default "mover:9000") id 2 (.error (.notFound "pvc-1")) (.ok ()))
    outcomeOf? 1 first.2 = some (.ok .deleted) ∧
      outcomeOf? 2 second.2 = some (.error (.volumeNotFound "pvc-1")) := by
  intro id first second
  constructor <;> decide +kernel

theorem removal_repeats_iff_daily :
    let id := "pvc-1-velero-bkp-daily-01"
    let past := ((start .empty .empty).run backupRemoved).2
    let first := ((start .empty .empty).run backupRemoved).1.step
      (.toEngine (.signalled 1 (.answered (.moved true))))
    (∀ id, Registry.empty.snapshot? id = none) ∧
      (placed backupRemoved)[1]? = some (.default "mover:9000", .removal id) ∧
      .ended 1 (.ok .deleted) ∈ first.2 ∧
      (∀ answer, .located answer ∉ repliesTo 1 past) ∧
      Repeats first.1 (.default "mover:9000") id (.ok "apps") (.error (.rejected 404 "gone")) := by
  intro id past first
  have hempty : ∀ id, Registry.empty.snapshot? id = none := fun _ => rfl
  have hplaced : placed backupRemoved =
      [(.default "mover:9000", .backup "pvc-1" "daily-01"),
        (.default "mover:9000", .removal id)] := rfl
  have horder : (placed backupRemoved)[1]? = some (.default "mover:9000", .removal id) := rfl
  have hended : .ended 1 (.ok .deleted) ∈ first.2 := List.mem_of_getElem? (i := 1) rfl
  have hreplies : repliesTo 1 past = [.retracted (.ok ())] := rfl
  have hcached : ∀ answer, .located answer ∉ repliesTo 1 past := by simp [hreplies]
  have hopen : ∀ volumeId backupName, BackedUp (placed backupRemoved) past id volumeId backupName →
      ¬ SnapshotId.OpensSeparator volumeId := by
    rintro volumeId backupName ⟨_, k, settings, hbackup, _⟩
    have hmem := List.mem_of_getElem? hbackup
    rw [hplaced, List.mem_cons, List.mem_singleton] at hmem
    rcases hmem with heq | heq
    · cases heq
      decide
    · cases heq
  have hgone : Removal.Retracts (.error (.rejected 404 "gone")) := .inr ⟨_, rfl, rfl⟩
  obtain ⟨_, _, hnamed, _⟩ := removal_repeats_iff (.ok "apps") hempty horder hended rfl hgone
  exact ⟨hempty, horder, hended, hcached, (hnamed hcached hopen).mpr ⟨"apps", rfl, by decide⟩⟩

end Depot

end SnapshotEngine
