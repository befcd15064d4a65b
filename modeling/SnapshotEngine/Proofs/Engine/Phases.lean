import SnapshotEngine.Proofs.Engine.Account

/-!
# What the phase of a failure is worth

The phase of a failure tells how far its operation has got: what was called for, what was
answered, and in which order, whatever other operations did in the meantime.  A failure
never reaches the snapshots.  A check that has failed leaves the whole registry as it was
and no command was sent; only a restore may have had a volume provided by then.

* `outcomes_tell_how_far` — all phases, and success;
* `checks_fail_before_commands` — the checks;
* `volume_provided_for_failed_check` — the volume that is left over.
-/

namespace SnapshotEngine

namespace Engine

/-- **How far an operation has got.**  Whatever happens before and after, an operation that
ends was ordered, and its outcome tells its calls and their answers.  With a failed command
it has moved nothing, and its job was never asked after; with a failed transfer its job was
accepted and the one transfer of its object was called for; without a confirmation that
transfer has succeeded as well, but the job is not noted as done; and only a removal fails
to clean up, last of all.  No failure reaches the snapshots.  With a success every call was
answered well, one after another. -/
theorem outcomes_tell_how_far (r : Registry) (first rest : List Stimulus) (s : Stimulus)
    (id : Nat) (outcome : Outcome)
    (hended : .ended id outcome ∈ (((ofRegistry r).run first).1.step s).2) :
    let noted := ((ofRegistry r).run first).1.registry
    let stimuli := first ++ s :: rest
    let events := ((ofRegistry r).run stimuli).2
    ∃ settings order, (ordersOf stimuli)[id]? = some (settings, order) ∧
      (∀ cause, outcome = .error cause →
        cause.Tells settings order noted (callsOf id events) (answeredOf id events) ∧
        (cause.phase = .command → answersTo id events = []) ∧
        LeavesAlone r stimuli id Registry.snapshots) ∧
      ∀ success, outcome = .ok success →
        success.Tells settings order noted (callsOf id events) (answeredOf id events) := by
  intro noted stimuli events
  obtain ⟨settings, order, horder, haccount⟩ := account_of_ended hended rest
  refine ⟨settings, order, horder, ?_, ?_⟩
  · rintro cause rfl
    have htells := haccount.tells
    refine ⟨htells, ?_, snapshots_left_alone (mem_run_of_step rfl hended)⟩
    intro hphase
    rw [Failure.Tells, hphase] at htells
    exact unserved_of_unmoved (trace_run r stimuli) htells
  · rintro success rfl
    exact haccount.tells_ok

theorem outcomes_tell_how_far_daily :
    let failed := Failure.transferFailed ⟨.upload, "daily-01/cstor-pvc-1"⟩
    let lost := Stimulus.signalled 0 (.answered (.moved false))
    let events := ((ofRegistry oneVolume).run (backupUnderWay ++ [lost])).2
    .ended 0 (.error failed) ∈ (((ofRegistry oneVolume).run backupUnderWay).1.step lost).2 ∧
      ∃ before : List Answered,
        callsOf 0 events = before.map Prod.fst ++ [.move .upload "daily-01/cstor-pvc-1"] ∧
        answeredOf 0 events =
          before ++ [(.move .upload "daily-01/cstor-pvc-1", .moved false)] := by
  intro failed lost events
  have hended : .ended 0 (.error failed) ∈
      (((ofRegistry oneVolume).run backupUnderWay).1.step lost).2 := by
    exact List.mem_cons_of_mem _ (List.mem_singleton_self _)
  obtain ⟨_, _, _, hfails, _⟩ :=
    outcomes_tell_how_far oneVolume backupUnderWay [] lost 0 (.error failed) hended
  obtain ⟨before, _, _, _, _, hcalls, ⟨hcause, hanswered⟩ | ⟨⟨_, hcause⟩, _⟩⟩ :=
    (hfails failed rfl).1
  · obtain ⟨haction, hobject⟩ := TransferError.mk.inj (Failure.transferFailed.inj hcause)
    rw [← haction, ← hobject] at hcalls hanswered
    exact ⟨hended, before, hcalls, hanswered⟩
  · exact Failure.noConfusion hcause

/-! ## Checks -/

/-- A claim of a volume that is gone changes nothing. -/
theorem step_reported_gone {e : Engine} {claim : Claim} {cause : Failure}
    (h : .discovered (.error cause) ∈ (e.step (.reported claim)).2) :
    cause.phase = .validation ∧ (e.step (.reported claim)).1 = e := by
  simp only [step, discover_eq, List.mem_singleton, Event.discovered.injEq] at h ⊢
  obtain ⟨_, hunqualified, rfl⟩ := Claim.outcome_eq_error_iff.mp h.symm
  rw [if_neg hunqualified]
  exact ⟨rfl, rfl⟩

/-- **Checks.**  A claim that fails its check changes nothing.  An operation that fails a
check leaves the registry as it was, and has called for nothing but the namespace of a
volume or a fresh volume; and it has called for a fresh volume exactly if it is a restore
that was then refused for what the volume lacks or for who is at work on it. -/
theorem checks_fail_before_commands (r : Registry) (stimuli : List Stimulus) :
    let e := ((ofRegistry r).run stimuli).1
    let events := ((ofRegistry r).run stimuli).2
    (∀ claim cause, .discovered (.error cause) ∈ (e.step (.reported claim)).2 →
      cause.phase = .validation ∧ (e.step (.reported claim)).1 = e) ∧
    ∀ id cause, .ended id (.error cause) ∈ events → cause.phase = .validation →
      LeavesAlone r stimuli id (fun registry => registry) ∧
      (∀ call ∈ callsOf id events, (∃ volumeId, call = .claimNamespace volumeId) ∨
        ∃ volumeId backupName, call = .provision volumeId backupName) ∧
      ((∃ volumeId backupName, .provision volumeId backupName ∈ callsOf id events) ↔
        (∃ settings snapshotId kind,
          (ordersOf stimuli)[id]? = some (settings, .restore snapshotId kind)) ∧
        ((∃ field, cause = .insufficientMetadata field) ∨
          ∃ name, cause = .operationInProgress name)) := by
  intro e events
  refine ⟨fun claim cause => step_reported_gone, ?_⟩
  intro id cause hended hphase
  obtain ⟨settings, order, noted, horder, haccount⟩ := account_of_mem hended
  obtain ⟨hcalls, hprovides⟩ := haccount.of_validation hphase
  refine ⟨registry_left_alone hended ?_, hcalls, hprovides.trans (and_congr_left' ?_)⟩
  · intro call hmem
    rcases hcalls call hmem with ⟨_, rfl⟩ | ⟨_, _, rfl⟩ <;> rfl
  · constructor
    · rintro ⟨snapshotId, kind, rfl⟩
      exact ⟨settings, snapshotId, kind, horder⟩
    · rintro ⟨settings', snapshotId, kind, horder'⟩
      cases horder.symm.trans horder'
      exact ⟨snapshotId, kind, rfl⟩

/-- A restore that is given a volume without a namespace. -/
def restoreIntoUnclaimed : List Stimulus :=
  [.ordered (.default "mover:9000") (.restore "pvc-1-velero-bkp-daily-01" volumeKind),
    .signalled 0 (.answered (.provisioned (.ok (.fresh "pvc-2" "" "cstor"))))]

/-- The volume is asked for, provided and refused. -/
theorem events_restoreIntoUnclaimed :
    (Engine.empty.run restoreIntoUnclaimed).2 =
      [.called 0 (.provision "pvc-1" "daily-01"),
        .answered 0 (.provision "pvc-1" "daily-01")
          (.provisioned (.ok (.fresh "pvc-2" "" "cstor"))),
        .ended 0 (.error (.insufficientMetadata .claimNamespace))] := rfl

theorem checks_fail_before_commands_daily :
    let events := (Engine.empty.run restoreIntoUnclaimed).2
    let cause := Failure.insufficientMetadata .claimNamespace
    .ended 0 (.error cause) ∈ events ∧ cause.phase = .validation ∧
      LeavesAlone .empty restoreIntoUnclaimed 0 (fun registry => registry) ∧
      ∃ volumeId backupName, .provision volumeId backupName ∈ callsOf 0 events := by
  intro events cause
  have hended : .ended 0 (.error cause) ∈ events := by
    simp [events, events_restoreIntoUnclaimed, cause]
  obtain ⟨halone, _, hprovides⟩ :=
    (checks_fail_before_commands .empty restoreIntoUnclaimed).2 0 cause hended rfl
  refine ⟨hended, rfl, halone, hprovides.mpr ⟨⟨_, _, _, rfl⟩, .inl ⟨_, rfl⟩⟩⟩

/-- **A volume is left over.**  A check may fail after a fresh volume was provided. -/
theorem volume_provided_for_failed_check :
    let events := (Engine.empty.run restoreIntoUnclaimed).2
    ∃ cause, .ended 0 (.error cause) ∈ events ∧ cause.phase = .validation ∧
      .called 0 (.provision "pvc-1" "daily-01") ∈ events := by
  intro events
  refine ⟨.insufficientMetadata .claimNamespace, ?_, rfl, ?_⟩
  · simp [events, events_restoreIntoUnclaimed]
  · simp [events, events_restoreIntoUnclaimed]

end Engine

end SnapshotEngine
