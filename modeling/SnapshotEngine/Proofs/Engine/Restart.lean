import SnapshotEngine.Proofs.Engine.History

/-!
# One object, across restarts

The object of a backup is named three times: as it is uploaded, when the snapshot is
restored, and when it is deleted.  The upload goes by what was ordered, the restore by
what the identifier says, and the deletion by the snapshot that is kept, or again by
the identifier after a restart.  As long as no volume that was backed up makes a
separator of its own, all three come to the same object, and a deletion that has to
look the namespace up does the same as one with the snapshot in hand.

* `Trace.of_backup`, `Trace.of_restore`, `Trace.of_removal` — what each of the three
  moves and asks for;
* `Trace.uploaded` — a backup that ends well has moved its object;
* `Follows.agrees` — the deletion with and without the snapshot in hand;
* `objects_agree_across_restarts` — all of it, for every two runs.
-/

namespace SnapshotEngine

namespace Engine

/-- A backup moves its object to the store and nothing else. -/
theorem Trace.of_backup {r : Registry} {stimuli : List Stimulus} {e : Engine}
    {events : List Event} {k : Nat} {settings : Settings} {volumeId backupName object : String}
    {action : TransferAction} (h : Trace r stimuli e events)
    (horder : (ordersOf stimuli)[k]? = some (settings, .backup volumeId backupName))
    (hmem : .called k (.move action object) ∈ events) :
    action = .upload ∧ object = settings.namer.objectName volumeId backupName := by
  obtain ⟨_, _, _, _, _, op, _, _, _, _, hcall, hserves, hmoves⟩ := h.caller_serves hmem horder
  obtain ⟨b, rfl, rfl, rfl, rfl⟩ := hserves.by_backup
  rcases Operation.of_call?_move hcall with ⟨c, hc, _, rfl, rfl⟩ | ⟨_, _, heq, _⟩
  · obtain ⟨haction, hobject⟩ := Prod.mk.inj (Option.some.inj (hmoves c hc))
    exact ⟨haction.symm, hobject.symm⟩
  · cases heq

/-- A restore moves the object of the backup that its identifier names from the store,
and asks for that backup. -/
theorem Trace.of_restore {r : Registry} {stimuli : List Stimulus} {e : Engine}
    {events : List Event} {j : Nat} {settings : Settings}
    {snapshotId kind volumeId backupName : String} (h : Trace r stimuli e events)
    (horder : (ordersOf stimuli)[j]? = some (settings, .restore snapshotId kind))
    (hdecode : SnapshotId.decode snapshotId = .ok (volumeId, backupName)) :
    (∀ action object, .called j (.move action object) ∈ events →
        action = .download ∧ object = settings.namer.objectName volumeId backupName) ∧
      ∀ request, .called j (.createRestore request) ∈ events → request.backupName = backupName := by
  have hcaller : ∀ call, .called j call ∈ events → ∃ t : Restore,
      (Operation.restore t).call? = some call ∧ (Operation.restore t).Moves ∧
        t.settings = settings ∧ t.volumeId = volumeId ∧ t.backupName = backupName := by
    intro call hmem
    obtain ⟨_, _, _, _, _, op, _, _, _, _, hcall, hserves, hmoves⟩ := h.caller_serves hmem horder
    obtain ⟨t, rfl, hsettings, hread⟩ := hserves.by_restore
    cases hdecode.symm.trans hread
    exact ⟨t, hcall, hmoves, hsettings, rfl, rfl⟩
  refine ⟨?_, ?_⟩
  · intro action object hmem
    obtain ⟨t, hcall, hmoves, rfl, rfl, rfl⟩ := hcaller _ hmem
    rcases Operation.of_call?_move hcall with ⟨c, hc, _, rfl, rfl⟩ | ⟨_, _, heq, _⟩
    · obtain ⟨haction, hobject⟩ := Prod.mk.inj (Option.some.inj (hmoves c hc))
      exact ⟨haction.symm, hobject.symm⟩
    · cases heq
  · intro request hmem
    obtain ⟨t, hcall, _, _, _, rfl⟩ := hcaller _ hmem
    change t.call? = _ at hcall
    unfold Restore.call? at hcall
    split at hcall
    · cases hcall
    · cases hcall
      rfl
    · rename_i c _
      unfold Confirmation.call? at hcall
      split at hcall <;> cases hcall

/-- The data of a removal is deleted after its backup. -/
def Retracted (e : Engine) (events : List Event) : Prop :=
  ∀ j d s, e.operations.get? j = some (.removal d) → d.stage = .erasing s →
    .called j (.deleteBackup s.volumeId s.backupName s.claimNamespace) ∈ events

/-- **Step.** -/
theorem Retracted.effect {e e' : Engine} {s : Stimulus} {past events : List Event}
    (h : Retracted e past) (hcalled : Called e past) (heffect : Effect e s e' events) :
    Retracted e' (past ++ events) := by
  intro j d sn hop hstage
  apply List.mem_append_left
  cases heffect.operation hop with
  | kept found unanswered => exact h j d sn found hstage
  | started number registry start =>
      obtain ⟨snapshotId, _, hstart⟩ := Operation.removal_of_start start
      obtain ⟨_, _, _, ⟨_, _, hretracts⟩ | ⟨_, _, _, hlocates⟩⟩ := Removal.start_waits hstart
      · cases hretracts.symm.trans hstage
      · cases hlocates.symm.trans hstage
  | wentOn found registry resume =>
      obtain ⟨d₀, rfl, hgoes⟩ := Operation.removal_of_resume resume
      cases hgoes with
      | located stage claimNamespace => cases hstage
      | retracted stage =>
          cases hstage
          apply hcalled.awaits j _ _ found
          simp only [Operation.call?, Removal.call?, stage]

/-- **Run.** -/
theorem retracted_trace {r : Registry} {stimuli : List Stimulus} {e : Engine}
    {events : List Event} (h : Trace r stimuli e events) : Retracted e events := by
  induction h with
  | start => exact fun _ _ _ hop => by cases hop
  | step before s ih => exact ih.effect (called_trace before) (effect_step _ s)

/-- A removal deletes the object of the backup that its identifier stands for, after it
had that backup deleted, and no other backup. -/
theorem Trace.of_removal {r : Registry} {stimuli : List Stimulus} {e : Engine}
    {events : List Event} {j : Nat} {settings : Settings}
    {snapshotId volumeId backupName : String} (h : Trace r stimuli e events)
    (hempty : ∀ id, r.snapshot? id = none)
    (hopen : ∀ id volumeId backupName, BackedUp (ordersOf stimuli) events id volumeId backupName →
      ¬ SnapshotId.OpensSeparator volumeId)
    (horder : (ordersOf stimuli)[j]? = some (settings, .removal snapshotId))
    (hdecode : SnapshotId.decode snapshotId = .ok (volumeId, backupName)) :
    (∀ action object, .called j (.move action object) ∈ events →
        action = .delete ∧ object = settings.namer.objectName volumeId backupName ∧
          ∃ claimNamespace, .called j (.deleteBackup volumeId backupName claimNamespace) ∈ events) ∧
      ∀ volumeId' backupName' claimNamespace,
        .called j (.deleteBackup volumeId' backupName' claimNamespace) ∈ events →
          volumeId' = volumeId ∧ backupName' = backupName := by
  have hcaller : ∀ call, .called j call ∈ events → ∃ (e₁ : Engine) (past : List Event)
      (d : Removal), (∀ event ∈ past, event ∈ events) ∧ Retracted e₁ past ∧
        e₁.operations.get? j = some (.removal d) ∧ d.call? = some call ∧
          d.settings = settings ∧ d.subject = (volumeId, backupName) := by
    intro call hmem
    obtain ⟨first, rest, e₁, past, later, op, rfl, rfl, htrace, hop, hcall, hserves, _⟩ :=
      h.caller_serves hmem horder
    obtain ⟨d, rfl, hsettings, rfl⟩ := hserves.by_removal
    have hstands := ((sourced_trace htrace hempty).removals j d hop).append
      (ordersOf rest) later
    rw [ordersOf, ordersOf, ← List.filterMap_append] at hstands
    have hread := hstands.decode hopen
    cases hdecode.symm.trans hread
    exact ⟨e₁, past, d, fun event hevent => List.mem_append_left later hevent,
      retracted_trace htrace, hop, hcall, hsettings, rfl⟩
  refine ⟨?_, ?_⟩
  · intro action object hmem
    obtain ⟨e₁, past, d, hpast, hretracted, hop, hcall, rfl, hsubject⟩ := hcaller _ hmem
    have hmove : (Operation.removal d).call? = some (.move action object) := hcall
    rcases Operation.of_call?_move hmove with ⟨c, hc, _⟩ | ⟨_, s, heq, hstage, rfl, rfl⟩
    · cases hc
    · cases heq
      simp only [Removal.subject, hstage, Prod.mk.injEq] at hsubject
      obtain ⟨rfl, rfl⟩ := hsubject
      exact ⟨rfl, rfl, s.claimNamespace, hpast _ (hretracted j d s hop hstage)⟩
  · intro volumeId' backupName' claimNamespace hmem
    obtain ⟨e₁, past, d, _, _, _, hcall, _, hsubject⟩ := hcaller _ hmem
    unfold Removal.call? at hcall
    split at hcall
    · cases hcall
    · rename_i s hstage
      cases hcall
      simp only [Removal.subject, hstage, Prod.mk.injEq] at hsubject
      exact hsubject
    · cases hcall

/-- A backup that ends well has moved its object to the store. -/
theorem Trace.uploaded {r : Registry} {stimuli : List Stimulus} {e : Engine}
    {events : List Event} {k : Nat} {settings : Settings}
    {volumeId backupName snapshotId : String} (h : Trace r stimuli e events)
    (horder : (ordersOf stimuli)[k]? = some (settings, .backup volumeId backupName))
    (hended : .ended k (.ok (.backedUp snapshotId)) ∈ events) :
    SnapshotId.encode volumeId backupName = .ok snapshotId ∧
      .answered k (.move .upload (settings.namer.objectName volumeId backupName)) (.moved true) ∈
        events := by
  obtain ⟨past, later, rfl⟩ := List.append_of_mem hended
  obtain ⟨first, s, rest, e₁, before, seen, tail, rfl, htrace, rfl, hstep⟩ := h.split rfl
  have hmem : .ended k (.ok (.backedUp snapshotId)) ∈ (e₁.step s).2 := by simp [hstep]
  obtain ⟨_, b, c, found, hstage, hmoved, rfl, _⟩ := (effect_step e₁ s).of_backedUp hmem
  have hserving := serving_trace htrace
  have hc : (Operation.backup b).confirmation? = some c := by
    simp only [Operation.confirmation?, hstage]
  obtain ⟨settings', order, horder', hserves⟩ := hserving.serves k _ found
  have hk := (List.getElem?_eq_some_iff.mp horder').1
  rw [ordersOf, List.filterMap_append] at horder
  cases horder'.symm.trans ((List.getElem?_append_left hk).symm.trans horder)
  obtain ⟨rfl, rfl, rfl, hid⟩ := hserves
  obtain ⟨haction, hobject⟩ := Prod.mk.inj (Option.some.inj (hserving.moves k _ found c hc))
  refine ⟨hid, ?_⟩
  have hanswered := hserving.moved k _ c found hc hmoved
  rw [← haction, ← hobject] at hanswered
  exact List.mem_append_left _ (List.mem_append_left _ hanswered)

/-- A removal that was told the namespace of its volume has the same calls after that,
and the same end, as one that had the snapshot in hand. -/
theorem Follows.agrees {orders orders' : List (Settings × Order)} {e e' : Engine}
    {events events' : List Event} {i j : Nat} {settings settings' : Settings}
    {snapshotId volumeId backupName : String} {v : Volume}
    {start start' stands stands' : RemovalStage ⊕ Outcome}
    (h : Follows orders e events i settings snapshotId start stands)
    (h' : Follows orders' e' events' j settings' snapshotId start' stands')
    (hnamer : settings'.namer = settings.namer)
    (hdecode : SnapshotId.decode snapshotId = .ok (volumeId, backupName))
    (hopen : ∀ id volumeId backupName, BackedUp orders events id volumeId backupName →
      ¬ SnapshotId.OpensSeparator volumeId)
    (hregistered : e.registry.volume? volumeId = some v)
    (hcached : ∀ name, .claimNamespace name ∉ callsOf i events)
    (hreplies : repliesTo j events' = .located (.ok v.claimNamespace) :: repliesTo i events) :
    callsOf j events' = .claimNamespace volumeId :: callsOf i events ∧
      outcomeOf? j events' = outcomeOf? i events := by
  have hcourse := h.course
  have hcourse' := h'.course
  rw [hreplies, Removal.course_congr hnamer] at hcourse'
  rw [h.outcome, h'.outcome]
  cases h.begins with
  | malformed decode => cases hdecode.symm.trans decode
  | read decode =>
      have hfirst := (Removal.callsAt_prefix_course hcourse).subset
        (List.mem_singleton_self (Call.claimNamespace _))
      exact absurd hfirst (hcached _)
  | cached settings₀ source housed =>
      rename_i s
      obtain ⟨v', hv', hnamespace⟩ := housed
      have hread : SnapshotId.decode snapshotId = .ok (s.volumeId, s.backupName) :=
        StandsFor.decode (.inl source) hopen
      cases hdecode.symm.trans hread
      cases hregistered.symm.trans hv'
      cases h'.begins with
      | malformed decode => cases hdecode.symm.trans decode
      | cached settings₁ source' housed' =>
          rw [Removal.standing_retract, ← Removal.standing_retract .empty settings "",
            Removal.course_retract_located] at hcourse'
          cases hcourse'
      | read decode =>
          cases hdecode.symm.trans decode
          rw [Removal.standing_retract, ← Removal.standing_retract .empty settings ""] at hcourse
          rw [Removal.course_located, hnamespace, hcourse, Option.map_some, Option.some.injEq,
            Prod.mk.injEq] at hcourse'
          obtain ⟨hcalls, rfl⟩ := hcourse'
          exact ⟨hcalls.symm, rfl⟩

/-- **One object, across restarts.**  Take two runs, of one engine or of two, that start
without snapshots and in which no volume that was backed up makes a separator of its
own.  If a backup ends well in the first, it has moved one object to the store; every
restore of its identifier in the second, with objects named in the same way, moves just
that object back and asks for the same backup; every removal deletes just that object,
after it had the backup deleted, and asks for no other backup to be deleted; and a
removal that is told the namespace with which the volume is registered has the same
calls after that, and the same end, as one that had the snapshot in hand and was
given the same answers. -/
theorem objects_agree_across_restarts {r r' : Registry} {stimuli stimuli' : List Stimulus}
    (hempty : ∀ id, r.snapshot? id = none) (hempty' : ∀ id, r'.snapshot? id = none)
    (hopen : ∀ id volumeId backupName,
      BackedUp (ordersOf stimuli) ((ofRegistry r).run stimuli).2 id volumeId backupName →
        ¬ SnapshotId.OpensSeparator volumeId)
    (hopen' : ∀ id volumeId backupName,
      BackedUp (ordersOf stimuli') ((ofRegistry r').run stimuli').2 id volumeId backupName →
        ¬ SnapshotId.OpensSeparator volumeId)
    {k : Nat} {settings : Settings} {volumeId backupName id : String}
    (horder : (ordersOf stimuli)[k]? = some (settings, .backup volumeId backupName))
    (hended : .ended k (.ok (.backedUp id)) ∈ ((ofRegistry r).run stimuli).2) :
    let e := ((ofRegistry r).run stimuli).1
    let events := ((ofRegistry r).run stimuli).2
    let events' := ((ofRegistry r').run stimuli').2
    ∃ object, .answered k (.move .upload object) (.moved true) ∈ events ∧
      (∀ action object', .called k (.move action object') ∈ events →
        action = .upload ∧ object' = object) ∧
      (∀ j settings' kind, (ordersOf stimuli')[j]? = some (settings', .restore id kind) →
        settings'.namer = settings.namer →
          (∀ action object', .called j (.move action object') ∈ events' →
            action = .download ∧ object' = object) ∧
          ∀ request, .called j (.createRestore request) ∈ events' →
            request.backupName = backupName) ∧
      (∀ j settings', (ordersOf stimuli')[j]? = some (settings', .removal id) →
        settings'.namer = settings.namer →
          (∀ action object', .called j (.move action object') ∈ events' →
            action = .delete ∧ object' = object ∧
              ∃ claimNamespace,
                .called j (.deleteBackup volumeId backupName claimNamespace) ∈ events') ∧
          ∀ volumeId' backupName' claimNamespace,
            .called j (.deleteBackup volumeId' backupName' claimNamespace) ∈ events' →
              volumeId' = volumeId ∧ backupName' = backupName) ∧
      ∀ i j settings₁ settings₂ v, (ordersOf stimuli)[i]? = some (settings₁, .removal id) →
        (ordersOf stimuli')[j]? = some (settings₂, .removal id) →
          settings₂.namer = settings₁.namer → e.registry.volume? volumeId = some v →
            (∀ name, .claimNamespace name ∉ callsOf i events) →
              repliesTo j events' = .located (.ok v.claimNamespace) :: repliesTo i events →
                callsOf j events' = .claimNamespace volumeId :: callsOf i events ∧
                  outcomeOf? j events' = outcomeOf? i events := by
  intro e events events'
  have htrace : Trace r stimuli e events := trace_run r stimuli
  have htrace' : Trace r' stimuli' ((ofRegistry r').run stimuli').1 events' :=
    trace_run r' stimuli'
  obtain ⟨hid, hmoved⟩ := htrace.uploaded horder hended
  have hbackedUp : BackedUp (ordersOf stimuli) events id volumeId backupName :=
    ⟨hid, k, settings, horder, hended⟩
  have hdecode : SnapshotId.decode id = .ok (volumeId, backupName) :=
    StandsFor.decode (.inl hbackedUp) hopen
  refine ⟨settings.namer.objectName volumeId backupName, hmoved, ?_, ?_, ?_, ?_⟩
  · intro action object' hmem
    exact htrace.of_backup horder hmem
  · intro j settings' kind hrestore hnamer
    rw [← hnamer]
    exact htrace'.of_restore hrestore hdecode
  · intro j settings' hremoval hnamer
    rw [← hnamer]
    exact htrace'.of_removal hempty' hopen' hremoval hdecode
  · intro i j settings₁ settings₂ v hfirst hsecond hnamer hregistered hcached hreplies
    obtain ⟨start, stands, hfollows⟩ := followed_trace htrace hempty i settings₁ id hfirst
    obtain ⟨start', stands', hfollows'⟩ := followed_trace htrace' hempty' j settings₂ id hsecond
    exact hfollows.agrees hfollows' hnamer hdecode hopen hregistered hcached hreplies

/-- That backup to its end, and the removal of its snapshot. -/
def backupThenRemoval : List Stimulus :=
  backupUnderWay ++ [.woken 0 (.answered (.ok .done)), .signalled 0 (.answered (.moved true)),
    .signalled 0 .pollerExited,
    .ordered (.default "mover:9000") (.removal "pvc-1-velero-bkp-daily-01"),
    .signalled 1 (.answered (.retracted (.ok ()))), .signalled 1 (.answered (.moved true))]

/-- A restore of the snapshot, up to the start of its transfer, and then its removal. -/
def restoreThenRemoval : List Stimulus :=
  [.ordered (.default "mover:9000") (.restore "pvc-1-velero-bkp-daily-01" "cstor-snapshot"),
    .signalled 0 (.answered (.provisioned (.ok (.fresh "pvc-2" "apps" "cstor")))),
    .signalled 0 (.answered (.accepted (.ok ⟨.restore, "daily-01", "pvc-2", "apps"⟩))),
    .ordered (.default "mover:9000") (.removal "pvc-1-velero-bkp-daily-01"),
    .signalled 1 (.answered (.located (.ok "apps"))),
    .signalled 1 (.answered (.retracted (.ok ()))), .signalled 1 (.answered (.moved true))]

theorem objects_agree_across_restarts_daily :
    let events := ((ofRegistry oneVolume).run backupThenRemoval).2
    let events' := ((ofRegistry .empty).run restoreThenRemoval).2
    (∃ object, .answered 0 (.move .upload object) (.moved true) ∈ events ∧
        .called 0 (.move .download object) ∈ events' ∧
          .called 1 (.move .delete object) ∈ events') ∧
      callsOf 1 events' = .claimNamespace "pvc-1" :: callsOf 1 events ∧
        outcomeOf? 1 events' = outcomeOf? 1 events := by
  intro events events'
  have hopen : ∀ id volumeId backupName,
      BackedUp (ordersOf backupThenRemoval) events id volumeId backupName →
        ¬ SnapshotId.OpensSeparator volumeId := by
    rintro id volumeId backupName ⟨_, k, settings, horder, _⟩
    have hmem : (settings, Order.backup volumeId backupName) ∈
        [(Settings.default "mover:9000", Order.backup "pvc-1" "daily-01"),
          (Settings.default "mover:9000", Order.removal "pvc-1-velero-bkp-daily-01")] :=
      List.mem_of_getElem? horder
    simp only [List.mem_cons, Prod.mk.injEq, Order.backup.injEq, reduceCtorEq, and_false,
      List.not_mem_nil, or_false] at hmem
    obtain ⟨_, rfl, _⟩ := hmem
    decide
  have hopen' : ∀ id volumeId backupName,
      BackedUp (ordersOf restoreThenRemoval) events' id volumeId backupName →
        ¬ SnapshotId.OpensSeparator volumeId := by
    rintro id volumeId backupName ⟨_, k, settings, horder, _⟩
    have hmem : (settings, Order.backup volumeId backupName) ∈
        [(Settings.default "mover:9000",
            Order.restore "pvc-1-velero-bkp-daily-01" "cstor-snapshot"),
          (Settings.default "mover:9000", Order.removal "pvc-1-velero-bkp-daily-01")] :=
      List.mem_of_getElem? horder
    simp at hmem
  have hempty : ∀ id, oneVolume.snapshot? id = none := fun _ => rfl
  have hempty' : ∀ id, Registry.empty.snapshot? id = none := fun _ => rfl
  have horder : (ordersOf backupThenRemoval)[0]? =
      some (.default "mover:9000", .backup "pvc-1" "daily-01") := rfl
  have hended : .ended 0 (.ok (.backedUp "pvc-1-velero-bkp-daily-01")) ∈ events :=
    List.mem_of_getElem? (i := 7) rfl
  obtain ⟨object, hmoved, _, hrestore, hremoval, hagree⟩ :=
    objects_agree_across_restarts hempty hempty' hopen hopen' horder hended
  obtain ⟨hdownloads, _⟩ := hrestore 0 (.default "mover:9000") "cstor-snapshot" rfl rfl
  obtain ⟨hdeletes, _⟩ := hremoval 1 (.default "mover:9000") rfl rfl
  have hdownload : .called 0 (.move .download "daily-01/cstor-pvc-1") ∈ events' :=
    mem_callsOf.mp (by decide +kernel)
  have hdelete : .called 1 (.move .delete "daily-01/cstor-pvc-1") ∈ events' :=
    mem_callsOf.mp (by decide +kernel)
  refine ⟨⟨object, hmoved, ?_, ?_⟩, ?_⟩
  · exact (hdownloads _ _ hdownload).2 ▸ hdownload
  · exact (hdeletes _ _ hdelete).2.1 ▸ hdelete
  · have hreplies : repliesTo 1 events = [.retracted (.ok ()), .moved true] := rfl
    have hreplies' : repliesTo 1 events' =
        [.located (.ok "apps"), .retracted (.ok ()), .moved true] := by
      with_unfolding_all rfl
    refine hagree 1 1 _ _ ⟨"pvc-1", "apps", "cstor", "daily-01", .done, .pending⟩ rfl rfl rfl rfl
      ?_ (by rw [hreplies, hreplies'])
    have hcalls : callsOf 1 events = [.deleteBackup "pvc-1" "daily-01" "apps",
        .move .delete "daily-01/cstor-pvc-1"] := rfl
    intro name
    rw [hcalls]
    simp

end Engine

end SnapshotEngine
