import SnapshotEngine.Proofs.Engine.Targets

/-!
# Where a blank name stops

A backup is refused under a name that is blank, and a removal under an identifier with a
blank part; both checks come before anything is asked of the control plane.  A restore reads
the same two names off an identifier, which only sees to it that they are not empty.  So an
identifier with a blank part still has a volume provided, and has its job ordered.

* `Trace.createBackup_named`, `Trace.deleteBackup_complete` — the commands with a check;
* `Trace.restores_of_called` — what a restore calls for;
* `run_restore_of_decode`, `run_removal_of_decode` — one identifier, restored and removed;
* `names_checked_except_by_restores` — all of these together;
* `restored_under_blank_name` — a restore that a removal would have refused.
-/

namespace SnapshotEngine

namespace Engine

variable {r : Registry} {e e' : Engine} {s : Stimulus} {stimuli : List Stimulus}
  {events : List Event}

/-! ## The commands with a check -/

/-- **Step.**  A backup has its name checked as it starts. -/
theorem Effect.backups_named (h : Effect e s e' events)
    (before : ∀ k b, e.operations.get? k = some (.backup b) → Text.blank b.backupName = false) :
    ∀ k b, e'.operations.get? k = some (.backup b) → Text.blank b.backupName = false := by
  intro k b hop
  cases h.operation hop with
  | kept found unanswered => exact before k b found
  | wentOn found registry resume =>
      obtain ⟨b₀, rfl, hgoes⟩ := Operation.backup_of_resume resume
      have hname : b.backupName = b₀.backupName :=
        congrArg Snapshot.backupName hgoes.same.2.1
      rw [hname]
      exact before k b₀ found
  | started number registry start =>
      obtain ⟨_, _, _, hstart⟩ := Operation.backup_of_start start
      exact Backup.start_usable hstart

/-- **Run.** -/
theorem backups_named_trace (h : Trace r stimuli e events) :
    ∀ k b, e.operations.get? k = some (.backup b) → Text.blank b.backupName = false := by
  induction h with
  | start => exact fun _ _ hop => by cases hop
  | step before s ih => exact (effect_step _ s).backups_named ih

/-- No backup is ordered under a blank name. -/
theorem Trace.createBackup_named {id : Nat} {request : BackupRequest}
    (h : Trace r stimuli e events) (hmem : .called id (.createBackup request) ∈ events) :
    Text.blank request.backupName = false := by
  obtain ⟨_, _, e₁, _, _, op, _, _, htrace, found, hcall⟩ := h.caller hmem
  obtain ⟨b, rfl, _, rfl⟩ := Operation.of_call?_createBackup hcall
  exact backups_named_trace htrace id b found

/-- **Step.**  A backup is deleted for a removal that has made sure that nothing is missing. -/
theorem Effect.deleteBackup_complete {id : Nat} {volumeId backupName claimNamespace : String}
    (h : Effect e s e' events)
    (hmem : .called id (.deleteBackup volumeId backupName claimNamespace) ∈ events) :
    (Snapshot.mk volumeId backupName claimNamespace).missingField = none := by
  cases h.calledBy hmem with
  | started number start waits =>
      obtain ⟨d, rfl, hstage⟩ := Operation.of_call?_deleteBackup waits
      obtain ⟨_, _, hstart⟩ := Operation.removal_of_start start
      exact Removal.complete_of_start hstart hstage
  | wentOn found resume waits =>
      obtain ⟨d, rfl, hstage⟩ := Operation.of_call?_deleteBackup waits
      obtain ⟨d₀, rfl, hgoes⟩ := Operation.removal_of_resume resume
      exact hgoes.complete hstage

/-- **Run.** -/
theorem Trace.deleteBackup_complete {id : Nat} {volumeId backupName claimNamespace : String}
    (h : Trace r stimuli e events)
    (hmem : .called id (.deleteBackup volumeId backupName claimNamespace) ∈ events) :
    (Snapshot.mk volumeId backupName claimNamespace).missingField = none := by
  induction h with
  | start => cases hmem
  | step before s ih =>
      rcases List.mem_append.mp hmem with hpast | hnow
      · exact ih hpast
      · exact (effect_step _ s).deleteBackup_complete hnow

/-! ## The commands without one -/

/-- A restore calls for a volume and for a job in the names that its identifier was decoded
to, and neither is empty. -/
theorem Trace.restores_of_called {id : Nat} {call : Call} (h : Trace r stimuli e events)
    (hmem : .called id call ∈ events)
    (hcall : (∃ volumeId backupName, call = .provision volumeId backupName) ∨
      ∃ request, call = .createRestore request) :
    ∃ volumeId backupName, Restores (ordersOf stimuli) id volumeId backupName ∧
      volumeId ≠ "" ∧ backupName ≠ "" ∧
      (call = .provision volumeId backupName ∨
        ∃ request, call = .createRestore request ∧ request.backupName = backupName) := by
  obtain ⟨first, rest, e₁, _, _, op, rfl, _, htrace, found, hwaits⟩ := h.caller hmem
  obtain ⟨t, rfl, hstage⟩ := Operation.of_call?_restore hwaits hcall
  have hserving := serving_trace htrace
  obtain ⟨_, _, _, _, hdecode⟩ := hserving.restores found
  obtain ⟨⟨hvolume, hbackup⟩, _⟩ := SnapshotId.decode_eq_ok_iff.mp hdecode
  refine ⟨t.volumeId, t.backupName, ?_, hvolume, hbackup, ?_⟩
  · rw [ordersOf, List.filterMap_append]
    exact (hserving.restores found).append _
  · rcases hstage with ⟨_, rfl⟩ | ⟨target, _, rfl⟩
    · exact .inl rfl
    · exact .inr ⟨_, rfl, rfl⟩

/-- A restore of what an identifier names has a volume provided, and orders its job if that
volume will do. -/
theorem run_restore_of_decode (e : Engine) (settings : Settings)
    {snapshotId volumeId backupName : String} {provided : Volume}
    (decodes : SnapshotId.decode snapshotId = .ok (volumeId, backupName))
    (mayFill : Restore.MayFill e.registry volumeId provided) :
    (e.run [.ordered settings (.restore snapshotId volumeKind),
        .signalled e.next (.answered (.provisioned (.ok provided)))]).2 =
      [.called e.next (.provision volumeId backupName),
        .answered e.next (.provision volumeId backupName) (.provisioned (.ok provided)),
        .called e.next (.createRestore
          ⟨provided.name, backupName, settings.serverAddr, provided.claimNamespace⟩)] := by
  let t : Restore := ⟨settings, volumeId, backupName, .provisioning⟩
  have hordered : Operation.start e.registry settings (.restore snapshotId volumeKind) =
      .waits e.registry (.restore t) := by
    rw [Operation.start, Restore.start_of_decode _ _ decodes, Progress.map]
  obtain ⟨r', htarget⟩ := mayFill.target (t := t)
  have hresume : (Operation.restore t).resume e.registry
      (.answered (.provisioned (.ok provided))) =
        some (.waits r' (.restore
          { t with stage := .ordering { provided with restoreStatus := .pending } })) := by
    simp only [Operation.resume, Restore.resume, t, Option.map_some]
    rw [htarget, Progress.map]
  rw [run_started_goesOn hordered hresume]
  rfl

/-- A removal of what an identifier names, of which nothing is kept, looks the namespace up
and then has the backup deleted, unless something is missing. -/
theorem run_removal_of_decode (e : Engine) (settings : Settings)
    {snapshotId volumeId backupName : String} (claimNamespace : String)
    (decodes : SnapshotId.decode snapshotId = .ok (volumeId, backupName))
    (unknown : e.registry.snapshot? snapshotId = none) :
    (e.run [.ordered settings (.removal snapshotId),
        .signalled e.next (.answered (.located (.ok claimNamespace)))]).2 =
      [.called e.next (.claimNamespace volumeId),
        .answered e.next (.claimNamespace volumeId) (.located (.ok claimNamespace)),
        match (Snapshot.mk volumeId backupName claimNamespace).missingField with
        | none => .called e.next (.deleteBackup volumeId backupName claimNamespace)
        | some field => .ended e.next (.error (.insufficientMetadata field))] := by
  let d : Removal := ⟨settings, snapshotId, .locating volumeId backupName⟩
  have hordered : Operation.start e.registry settings (.removal snapshotId) =
      .waits e.registry (.removal d) := by
    simp [Operation.start, Removal.start, unknown, decodes, Progress.map, d]
  cases hmissing : (Snapshot.mk volumeId backupName claimNamespace).missingField with
  | none =>
      have hresume : (Operation.removal d).resume e.registry
          (.answered (.located (.ok claimNamespace))) =
            some (.waits e.registry (.removal
              { d with stage := .retracting ⟨volumeId, backupName, claimNamespace⟩ })) := by
        simp only [Operation.resume, Removal.resume_located (d := d) rfl hmissing, Option.map_some,
          Progress.map]
      rw [run_started_goesOn hordered hresume]
      rfl
  | some field =>
      have hresume : (Operation.removal d).resume e.registry
          (.answered (.located (.ok claimNamespace))) =
            some (.ends e.registry (.error (.insufficientMetadata field))) := by
        simp [Operation.resume, Removal.resume, d, Removal.retract, hmissing, Progress.map]
      rw [run_started_ends hordered hresume]
      rfl

/-- **Only restores go by blank names.**  Whatever happens to an engine, it orders no backup
under a blank name and has none deleted of which something is blank.  A restore calls for a
volume and for its job in the names that its identifier was decoded to, which are not empty;
but whatever else they are, it has the volume provided and orders the job if the volume will
do, while a removal of the same identifier ends for what is blank. -/
theorem names_checked_except_by_restores (r : Registry) (stimuli : List Stimulus) :
    let e := ((ofRegistry r).run stimuli).1
    let events := ((ofRegistry r).run stimuli).2
    (∀ id request, .called id (.createBackup request) ∈ events →
      Text.blank request.backupName = false) ∧
    (∀ id volumeId backupName claimNamespace,
      .called id (.deleteBackup volumeId backupName claimNamespace) ∈ events →
        Text.blank volumeId = false ∧ Text.blank backupName = false ∧
          Text.blank claimNamespace = false) ∧
    (∀ id call, .called id call ∈ events →
      ((∃ volumeId backupName, call = .provision volumeId backupName) ∨
        ∃ request, call = .createRestore request) →
      ∃ volumeId backupName, Restores (ordersOf stimuli) id volumeId backupName ∧
        volumeId ≠ "" ∧ backupName ≠ "" ∧
        (call = .provision volumeId backupName ∨
          ∃ request, call = .createRestore request ∧ request.backupName = backupName)) ∧
    ∀ settings snapshotId volumeId backupName,
      SnapshotId.decode snapshotId = .ok (volumeId, backupName) →
      (∀ provided, Restore.MayFill e.registry volumeId provided →
        (e.run [.ordered settings (.restore snapshotId volumeKind),
            .signalled e.next (.answered (.provisioned (.ok provided)))]).2 =
          [.called e.next (.provision volumeId backupName),
            .answered e.next (.provision volumeId backupName) (.provisioned (.ok provided)),
            .called e.next (.createRestore
              ⟨provided.name, backupName, settings.serverAddr, provided.claimNamespace⟩)]) ∧
      ∀ claimNamespace, e.registry.snapshot? snapshotId = none →
        (e.run [.ordered settings (.removal snapshotId),
            .signalled e.next (.answered (.located (.ok claimNamespace)))]).2 =
          [.called e.next (.claimNamespace volumeId),
            .answered e.next (.claimNamespace volumeId) (.located (.ok claimNamespace)),
            match (Snapshot.mk volumeId backupName claimNamespace).missingField with
            | none => .called e.next (.deleteBackup volumeId backupName claimNamespace)
            | some field => .ended e.next (.error (.insufficientMetadata field))] := by
  intro e events
  have htrace : Trace r stimuli e events := trace_run r stimuli
  refine ⟨fun _ _ => htrace.createBackup_named, ?_, fun _ _ => htrace.restores_of_called, ?_⟩
  · intro id volumeId backupName claimNamespace hmem
    exact Snapshot.missingField_eq_none_iff.mp (htrace.deleteBackup_complete hmem)
  · intro settings snapshotId volumeId backupName hdecode
    exact ⟨fun _ => run_restore_of_decode e settings hdecode,
      fun claimNamespace => run_removal_of_decode e settings claimNamespace hdecode⟩

theorem names_checked_except_by_restores_daily :
    let id := "pvc-1-velero-bkp-daily-01"
    let settings := Settings.default "mover:9000"
    let provided := Volume.fresh "pvc-2" "apps" "cstor"
    let restored : List Stimulus := [.ordered settings (.restore id volumeKind),
      .signalled 0 (.answered (.provisioned (.ok provided)))]
    let removed : List Stimulus := [.ordered settings (.removal id),
      .signalled 0 (.answered (.located (.ok "apps")))]
    SnapshotId.decode id = .ok ("pvc-1", "daily-01") ∧
      Restore.MayFill Registry.empty "pvc-1" provided ∧
      .called 0 (.createRestore ⟨"pvc-2", "daily-01", "mover:9000", "apps"⟩) ∈
        (Engine.empty.run restored).2 ∧
      (∃ volumeId backupName, Restores (ordersOf restored) 0 volumeId backupName ∧
        volumeId ≠ "" ∧ backupName ≠ "") ∧
      .called 0 (.deleteBackup "pvc-1" "daily-01" "apps") ∈ (Engine.empty.run removed).2 ∧
      Text.blank "daily-01" = false := by
  intro id settings provided restored removed
  have hdecode : SnapshotId.decode id = .ok ("pvc-1", "daily-01") := by decide
  have hmayFill : Restore.MayFill Registry.empty "pvc-1" provided :=
    ⟨by decide, by decide, by decide, rfl, rfl⟩
  obtain ⟨_, _, _, hruns⟩ := names_checked_except_by_restores .empty []
  obtain ⟨hrestored, hremoved⟩ := hruns settings id _ _ hdecode
  have hordered : .called 0 (.createRestore ⟨"pvc-2", "daily-01", "mover:9000", "apps"⟩) ∈
      (Engine.empty.run restored).2 :=
    hrestored provided hmayFill ▸ List.mem_cons_of_mem _ (List.mem_cons_of_mem _
      (List.mem_singleton_self _))
  have hdeleted : .called 0 (.deleteBackup "pvc-1" "daily-01" "apps") ∈
      (Engine.empty.run removed).2 :=
    hremoved "apps" rfl ▸ List.mem_cons_of_mem _ (List.mem_cons_of_mem _
      (List.mem_singleton_self _))
  obtain ⟨_, _, hcalls, _⟩ := names_checked_except_by_restores .empty restored
  obtain ⟨volumeId, backupName, hrestores, hnames, hname, _⟩ :=
    hcalls 0 _ hordered (.inr ⟨_, rfl⟩)
  obtain ⟨_, hcomplete, _⟩ := names_checked_except_by_restores .empty removed
  exact ⟨hdecode, hmayFill, hordered, ⟨volumeId, backupName, hrestores, hnames, hname⟩, hdeleted,
    (hcomplete 0 _ _ _ hdeleted).2.1⟩

/-- **A blank name gets through.**  An identifier of a backup that is called by a space has a
volume provided and its job ordered, while its removal ends for the name that is missing. -/
theorem restored_under_blank_name :
    let id := "pvc-1-velero-bkp- "
    let settings := Settings.default "mover:9000"
    SnapshotId.decode id = .ok ("pvc-1", " ") ∧ Text.blank " " ∧
      (Engine.empty.run [.ordered settings (.restore id volumeKind),
          .signalled 0 (.answered (.provisioned (.ok (.fresh "pvc-2" "apps" "cstor"))))]).2 =
        [.called 0 (.provision "pvc-1" " "),
          .answered 0 (.provision "pvc-1" " ")
            (.provisioned (.ok (.fresh "pvc-2" "apps" "cstor"))),
          .called 0 (.createRestore ⟨"pvc-2", " ", "mover:9000", "apps"⟩)] ∧
      (Engine.empty.run [.ordered settings (.removal id),
          .signalled 0 (.answered (.located (.ok "apps")))]).2 =
        [.called 0 (.claimNamespace "pvc-1"),
          .answered 0 (.claimNamespace "pvc-1") (.located (.ok "apps")),
          .ended 0 (.error (.insufficientMetadata .backupName))] :=
  ⟨by decide, by decide, rfl, rfl⟩

end Engine

end SnapshotEngine
