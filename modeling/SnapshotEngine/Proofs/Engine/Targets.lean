import SnapshotEngine.Proofs.Engine.Account

/-!
# Which volumes are filled

A restore is given its volume by the directory, which may name any volume at all.  What
keeps it from filling one that holds data is that the volume must not be known: looking it
up, taking its marker and registering it are one step, so whoever comes later finds it
known, whether the first restore has succeeded or not.  Hence no volume is filled that was
discovered or filled before, and none is filled twice.

* `targetsOf` — the volumes that restores have ordered their jobs for;
* `Effect.of_createRestore` — how such an order comes about;
* `Trace.known_of_met` — what was discovered or filled is known;
* `restores_fill_fresh_volumes` — so all targets are fresh, and no other will do.
-/

namespace SnapshotEngine

/-- The volume that an event orders a restore into. -/
def Event.target? : Event → Option String
  | .called _ (.createRestore request) => some request.volumeId
  | _ => none

/-- The volumes that restores were ordered into, one after another. -/
def targetsOf (events : List Event) : List String := events.filterMap Event.target?

/-- What an operation was ordered to restore. -/
def Restores (orders : List (Settings × Order)) (id : Nat) (volumeId backupName : String) :
    Prop :=
  ∃ settings snapshotId kind, orders[id]? = some (settings, .restore snapshotId kind) ∧
    SnapshotId.decode snapshotId = .ok (volumeId, backupName)

/-- Later orders do not change what an operation was ordered to restore. -/
theorem Restores.append {orders : List (Settings × Order)} {id : Nat} {volumeId backupName : String}
    (h : Restores orders id volumeId backupName) (later : List (Settings × Order)) :
    Restores (orders ++ later) id volumeId backupName := by
  obtain ⟨settings, snapshotId, kind, horder, hdecode⟩ := h
  have hid := (List.getElem?_eq_some_iff.mp horder).1
  exact ⟨settings, snapshotId, kind, (List.getElem?_append_left hid).trans horder, hdecode⟩

theorem targetsOf_append (past later : List Event) :
    targetsOf (past ++ later) = targetsOf past ++ targetsOf later :=
  List.filterMap_append

theorem mem_targetsOf {events : List Event} {name : String} :
    name ∈ targetsOf events ↔
      ∃ id request, .called id (.createRestore request) ∈ events ∧ request.volumeId = name := by
  unfold targetsOf
  rw [List.mem_filterMap]
  constructor
  · rintro ⟨event, hmem, htarget⟩
    cases event with
    | called id call =>
        cases call with
        | createRestore request => exact ⟨id, request, hmem, Option.some.inj htarget⟩
        | _ => cases htarget
    | _ => cases htarget
  · rintro ⟨id, request, hmem, rfl⟩
    exact ⟨_, hmem, rfl⟩

namespace Engine

/-! ## What is known -/

/-- **Step.**  A restore orders its job in the step that provides it with its volume, and
registers the volume there. -/
theorem Effect.of_createRestore {e e' : Engine} {s : Stimulus} {events : List Event} {id : Nat}
    {request : RestoreRequest} (h : Effect e s e' events)
    (hmem : .called id (.createRestore request) ∈ events) :
    ∃ t t' provided, s = .signalled id (.answered (.provisioned (.ok provided))) ∧
      e.operations.get? id = some (.restore t) ∧
      t.target e.registry provided = .waits e'.registry t' ∧
      request.volumeId = provided.name ∧ request.backupName = t.backupName := by
  cases h.calledBy hmem with
  | started number start waits =>
      obtain ⟨t, target, rfl, hstage, _⟩ := Operation.of_call?_createRestore waits
      obtain ⟨_, _, _, hstart⟩ := Operation.restore_of_start start
      cases hstage.symm.trans (Restore.start_waits hstart).2.2.1
  | wentOn found resume waits =>
      obtain ⟨t', target, rfl, hstage, rfl⟩ := Operation.of_call?_createRestore waits
      obtain ⟨t, rfl, hgoes⟩ := Operation.restore_of_resume resume
      cases hgoes with
      | provided stage htarget =>
          rename_i provided
          obtain ⟨_, rfl, _⟩ := Restore.target_waits htarget
          cases hstage
          exact ⟨t, _, provided, rfl, found, by rw [registry_keep]; exact htarget, rfl, rfl⟩
      | accepted stage => cases hstage
      | continued stage advance => cases hstage

/-- **Step.**  A claim that was taken on has its volume known. -/
theorem Effect.of_discovered {e e' : Engine} {s : Stimulus} {events : List Event}
    {name : String} (h : Effect e s e' events)
    (hmem : .discovered (.ok (some name)) ∈ events) :
    ∃ v, e'.registry.volume? name = some v := by
  cases h with
  | looked =>
      rename_i claim
      simp only [discover_eq, List.mem_singleton, Event.discovered.injEq] at hmem
      obtain ⟨qualifies, rfl⟩ := Claim.outcome_eq_some_iff.mp hmem.symm
      exact (looked_discover e.registry claim).known_of_qualifies qualifies
  | started start => exact (not_mem_callEvents (fun _ heq => by cases heq) hmem).elim
  | wentOn found admits resume =>
      rcases List.mem_append.mp hmem with hmem | hmem
      · exact (not_mem_answerEvents (fun _ _ heq => by cases heq) hmem).elim
      · exact (not_mem_callEvents (fun _ heq => by cases heq) hmem).elim
  | ended found admits resume =>
      rcases List.mem_append.mp hmem with hmem | hmem
      · exact (not_mem_answerEvents (fun _ _ heq => by cases heq) hmem).elim
      · simp at hmem
  | _ => simp at hmem

/-- **Run.**  Whatever was discovered, and whatever a restore was ordered into, is known. -/
theorem Trace.known_of_met {r : Registry} {stimuli : List Stimulus} {e : Engine}
    {events : List Event} {name : String} (h : Trace r stimuli e events)
    (hmet : .discovered (.ok (some name)) ∈ events ∨ name ∈ targetsOf events) :
    ∃ v, e.registry.volume? name = some v := by
  induction h with
  | start => rcases hmet with hmem | hmem <;> cases hmem
  | step before s ih =>
      rename_i stimuli e events
      have heffect := effect_step e s
      have hpast : (.discovered (.ok (some name)) ∈ events ∨ name ∈ targetsOf events) →
          ∃ v, (e.step s).1.registry.volume? name = some v := by
        intro hmet
        obtain ⟨v, hv⟩ := ih hmet
        obtain ⟨v', hv', _⟩ := heffect.registered hv
        exact ⟨v', hv'⟩
      rw [targetsOf_append, List.mem_append, List.mem_append] at hmet
      rcases hmet with (hmem | hmem) | (hmem | hmem)
      · exact hpast (.inl hmem)
      · exact heffect.of_discovered hmem
      · exact hpast (.inr hmem)
      · obtain ⟨id, request, hcalled, rfl⟩ := mem_targetsOf.mp hmem
        obtain ⟨_, _, _, _, _, htarget, hname, _⟩ := heffect.of_createRestore hcalled
        rw [hname]
        exact ⟨_, (Restore.target_registers htarget).2.2.2⟩

/-! ## Fresh volumes -/

/-- **Step.**  The volume that a restore is ordered into was not known. -/
theorem Effect.target_unknown {e e' : Engine} {s : Stimulus} {events : List Event}
    {name : String} (h : Effect e s e' events) (hmem : name ∈ targetsOf events) :
    e.registry.volume? name = none := by
  obtain ⟨id, request, hcalled, rfl⟩ := mem_targetsOf.mp hmem
  obtain ⟨_, _, _, _, _, htarget, hname, _⟩ := h.of_createRestore hcalled
  rw [hname]
  exact (Restore.target_waits htarget).1

/-- **Step.**  No two restores are ordered in one step. -/
theorem Effect.nodup_targetsOf {e e' : Engine} {s : Stimulus} {events : List Event}
    (h : Effect e s e' events) : (targetsOf events).Nodup := by
  have hcalled : ∀ id op, (targetsOf (callEvents id op)).Nodup := by
    intro id op
    unfold callEvents
    cases op.call? with
    | none => exact List.nodup_nil
    | some call =>
        cases call with
        | createRestore request => exact List.nodup_cons.mpr ⟨List.not_mem_nil, List.nodup_nil⟩
        | _ => exact List.nodup_nil
  have hanswered : ∀ id op signal, targetsOf (answerEvents id op signal) = [] := by
    intro id op signal
    apply List.eq_nil_iff_forall_not_mem.mpr
    intro name hmem
    obtain ⟨_, _, hmem, _⟩ := mem_targetsOf.mp hmem
    exact not_mem_answerEvents (fun _ _ heq => by cases heq) hmem
  cases h with
  | started start => exact hcalled _ _
  | wentOn found admits resume =>
      rw [targetsOf_append, hanswered]
      exact hcalled _ _
  | ended found admits resume =>
      rw [targetsOf_append, hanswered]
      exact List.nodup_nil
  | _ => exact List.nodup_nil

/-- **Run.**  No volume is filled twice. -/
theorem Trace.nodup_targetsOf {r : Registry} {stimuli : List Stimulus} {e : Engine}
    {events : List Event} (h : Trace r stimuli e events) : (targetsOf events).Nodup := by
  induction h with
  | start => exact List.nodup_nil
  | step before s ih =>
      rename_i stimuli e events
      have heffect := effect_step e s
      rw [targetsOf_append]
      refine List.nodup_append.mpr ⟨ih, heffect.nodup_targetsOf, ?_⟩
      rintro name hpast _ hnow rfl
      obtain ⟨v, hv⟩ := before.known_of_met (.inr hpast)
      cases (heffect.target_unknown hnow).symm.trans hv

/-- An operation serves an order to restore if it is a restore. -/
theorem Serving.restores {orders : List (Settings × Order)} {e : Engine} {events : List Event}
    {id : Nat} {t : Restore} (h : Serving orders e events)
    (found : e.operations.get? id = some (.restore t)) :
    Restores orders id t.volumeId t.backupName := by
  obtain ⟨settings, order, horder, hserves⟩ := h.serves id _ found
  obtain ⟨snapshotId, kind, rfl, _, hdecode⟩ := hserves.of_restore
  exact ⟨settings, snapshotId, kind, horder, hdecode⟩

/-! ## Volumes that will not do -/

/-- **Step.**  A volume that is known, or that the backup was taken of, ends the restore that
is provided with it. -/
theorem step_provided_known {e : Engine} {id : Nat} {t : Restore} {provided : Volume}
    (found : e.operations.get? id = some (.restore t)) (stage : t.stage = .provisioning)
    (known : provided.name = t.volumeId ∨ (e.registry.volume? provided.name).isSome) :
    ∃ cause, .ended id (.error cause) ∈
        (e.step (.signalled id (.answered (.provisioned (.ok provided))))).2 ∧
      ((Text.blank provided.name ∧ cause = .insufficientMetadata .volumeId) ∨
        (Text.blank provided.claimNamespace ∧ cause = .insufficientMetadata .claimNamespace) ∨
        (e.registry.inFlight provided.name ∧ cause = .operationInProgress provided.name) ∨
        cause = .restoreTargetConflict t.volumeId provided.name) := by
  obtain ⟨cause, htarget, hcause⟩ := Restore.target_of_known known
  refine ⟨cause, ?_, hcause⟩
  have hresume : (Operation.restore t).resume e.registry
      (.answered (.provisioned (.ok provided))) = some (.ends e.registry (.error cause)) := by
    simp only [Operation.resume, Restore.resume, stage, Option.map_some, htarget, Progress.map]
  simp [step, signal, found, admits, hresume]

/-- A restore without a volume has called for nothing but that volume. -/
theorem Recorded.callsOf_of_provisioning {orders : List (Settings × Order)} {e : Engine}
    {events : List Event} {id : Nat} {t : Restore} (h : Recorded orders e events)
    (found : e.operations.get? id = some (.restore t)) (stage : t.stage = .provisioning) :
    callsOf id events = [.provision t.volumeId t.backupName] := by
  obtain ⟨_, _, _, _, hcame, hmade⟩ := h id _ found
  simp only [Operation.CameBy, stage] at hcame
  rw [hmade, hcame]
  simp [Operation.call?, Restore.call?, stage]

/-- **Restores fill fresh volumes.**  In every engine that is reached from a registry, no
volume was ever filled twice.  Whenever a restore orders its job, the volume was not known,
neither discovered nor filled before, and is not the one that the backup was taken of.  And
whenever a restore is provided with a volume that is known, or with the one that the backup
was taken of, it ends for the reason given, has called for nothing but that volume and calls
for nothing afterwards, and leaves the registry as it was. -/
theorem restores_fill_fresh_volumes (r : Registry) (stimuli : List Stimulus) :
    let e := ((ofRegistry r).run stimuli).1
    let events := ((ofRegistry r).run stimuli).2
    (targetsOf events).Nodup ∧
      (∀ s id request, .called id (.createRestore request) ∈ (e.step s).2 →
        e.registry.volume? request.volumeId = none ∧
        .discovered (.ok (some request.volumeId)) ∉ events ∧
        request.volumeId ∉ targetsOf events ∧
        ∃ volumeId backupName, Restores (ordersOf stimuli) id volumeId backupName ∧
          request.volumeId ≠ volumeId ∧ request.backupName = backupName) ∧
      ∀ s id volumeId backupName provided,
        .answered id (.provision volumeId backupName) (.provisioned (.ok provided)) ∈
            (e.step s).2 →
          (provided.name = volumeId ∨ (e.registry.volume? provided.name).isSome) →
            Restores (ordersOf stimuli) id volumeId backupName ∧
            (∃ cause, .ended id (.error cause) ∈ (e.step s).2 ∧
              ((Text.blank provided.name ∧ cause = .insufficientMetadata .volumeId) ∨
                (Text.blank provided.claimNamespace ∧
                  cause = .insufficientMetadata .claimNamespace) ∨
                (e.registry.inFlight provided.name ∧
                  cause = .operationInProgress provided.name) ∨
                cause = .restoreTargetConflict volumeId provided.name)) ∧
            ∀ rest,
              callsOf id ((ofRegistry r).run (stimuli ++ s :: rest)).2 =
                [.provision volumeId backupName] ∧
              LeavesAlone r (stimuli ++ s :: rest) id fun registry => registry := by
  intro e events
  have htrace : Trace r stimuli e events := trace_run r stimuli
  refine ⟨htrace.nodup_targetsOf, ?_, ?_⟩
  · intro s id request hmem
    have hunknown := (effect_step e s).target_unknown (mem_targetsOf.mpr ⟨id, request, hmem, rfl⟩)
    have hunmet : ¬ (.discovered (.ok (some request.volumeId)) ∈ events ∨
        request.volumeId ∈ targetsOf events) := by
      intro hmet
      obtain ⟨v, hv⟩ := htrace.known_of_met hmet
      cases hunknown.symm.trans hv
    obtain ⟨t, t', provided, rfl, found, htarget, hname, hbackup⟩ :=
      (effect_step e s).of_createRestore hmem
    refine ⟨hunknown, fun hmem => hunmet (.inl hmem), fun hmem => hunmet (.inr hmem),
      t.volumeId, t.backupName, (serving_trace htrace).restores found, ?_, hbackup⟩
    rw [hname]
    exact (Restore.target_registers htarget).2.2.1
  · intro s id volumeId backupName provided hmem hknown
    obtain ⟨rfl, op, found, hcall⟩ := (effect_step e s).of_answered hmem
    obtain ⟨t, rfl, hstage, rfl, rfl⟩ := Operation.of_call?_provision hcall
    obtain ⟨cause, hended, hcause⟩ := step_provided_known found hstage hknown
    refine ⟨(serving_trace htrace).restores found, ⟨cause, hended, hcause⟩, fun rest => ?_⟩
    have hcalls := (callsOf_of_ended hended rest).trans
      ((recorded_trace htrace).callsOf_of_provisioning found hstage)
    refine ⟨hcalls, registry_left_alone (mem_run_of_step rfl hended) ?_⟩
    rw [hcalls, List.forall_mem_singleton]
    rfl

/-- Two restores that are about to be provided with their volumes. -/
def twoRestores : List Stimulus :=
  [.ordered (.default "mover:9000") (.restore "pvc-1-velero-bkp-daily-01" volumeKind),
    .ordered (.default "mover:9000") (.restore "pvc-1-velero-bkp-daily-02" volumeKind)]

theorem restores_fill_fresh_volumes_daily :
    let given := fun id => Stimulus.signalled id
      (.answered (.provisioned (.ok (.fresh "pvc-2" "apps" "cstor"))))
    let e := (Engine.empty.run (twoRestores ++ [given 0])).1
    let events := (Engine.empty.run (twoRestores ++ [given 0])).2
    (targetsOf events).Nodup ∧
      .called 0 (.createRestore ⟨"pvc-2", "daily-01", "mover:9000", "apps"⟩) ∈ events ∧
      (Engine.empty.run twoRestores).1.registry.volume? "pvc-2" = none ∧
      (∃ cause, .ended 1 (.error cause) ∈ (e.step (given 1)).2) ∧
      callsOf 1 (Engine.empty.run (twoRestores ++ [given 0] ++ [given 1])).2 =
        [.provision "pvc-1" "daily-02"] := by
  intro given e events
  have hfirst : ((Engine.empty.run twoRestores).1.step (given 0)).2 =
      [.answered 0 (.provision "pvc-1" "daily-01")
          (.provisioned (.ok (.fresh "pvc-2" "apps" "cstor"))),
        .called 0 (.createRestore ⟨"pvc-2", "daily-01", "mover:9000", "apps"⟩)] := rfl
  have hsecond : (e.step (given 1)).2 =
      [.answered 1 (.provision "pvc-1" "daily-02")
          (.provisioned (.ok (.fresh "pvc-2" "apps" "cstor"))),
        .ended 1 (.error (.operationInProgress "pvc-2"))] := rfl
  have hordered : .called 0 (.createRestore ⟨"pvc-2", "daily-01", "mover:9000", "apps"⟩) ∈
      ((Engine.empty.run twoRestores).1.step (given 0)).2 := by
    simp [hfirst]
  have hgiven : .answered 1 (.provision "pvc-1" "daily-02")
      (.provisioned (.ok (.fresh "pvc-2" "apps" "cstor"))) ∈ (e.step (given 1)).2 := by
    simp [hsecond]
  have hknown : (e.registry.volume? "pvc-2").isSome := rfl
  obtain ⟨_, hfresh, _⟩ := restores_fill_fresh_volumes .empty twoRestores
  obtain ⟨hnodup, _, hrefused⟩ := restores_fill_fresh_volumes .empty (twoRestores ++ [given 0])
  obtain ⟨_, ⟨cause, hended, _⟩, hcalls⟩ := hrefused (given 1) 1 _ _ _ hgiven (.inr hknown)
  exact ⟨hnodup, mem_run_of_step rfl hordered, (hfresh (given 0) 0 _ hordered).1,
    ⟨cause, hended⟩, (hcalls []).1⟩

end Engine

end SnapshotEngine
