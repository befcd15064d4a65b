import SnapshotEngine.Config
import SnapshotEngine.Proofs.Engine.Owned
import SnapshotEngine.Proofs.Engine.Ownership
import SnapshotEngine.Proofs.Rehearsal.Confirming
import SnapshotEngine.Rehearsal.Cast

/-!
# A job that is done is confirmed

A backup by itself meets collaborators that do what it asks for, and whoever asks after
its job hears at once that it is done.  Then it succeeds: its poller asks while the data
moves, or while the job has time to report its end.  Only when neither takes any time is
the poller cancelled before it has asked.

* `Backend.Willing`, `Cast.backend_willing` — such collaborators, and the script they follow;
* `order_leads_to_confirmation` — what comes of a backup with them, step by step;
* `finished_jobs_confirmed_unless_instant` — and what it reports;
* `instant_backup_not_confirmed` — the backup whose job is never asked after.
-/

namespace SnapshotEngine

variable {σ : Type}

/-- Collaborators that do what a backup asks for: they preserve the claim, accept the job,
move the data up in a set time, and answer every question at once, that the job is done.
They are so in some states, which they do not leave. -/
structure Backend.Willing (b : Backend σ) (d : Nat) (P : σ → Prop) : Prop where
  arrives : ∀ site call, P site → P (b.arrive site call)
  preserves : ∀ site volume, P site → ∃ after,
    b.answer? site (.preserveClaim volume) = some (.preserved (.ok ()), after) ∧ P after
  accepts : ∀ site request, P site → ∃ after,
    b.answer? site (.createBackup request) = some (.accepted (.ok request.job), after) ∧ P after
  takes : ∀ site object, P site → b.callDelay site (.move .upload object) = d
  moves : ∀ site object, P site → ∃ after,
    b.answer? site (.move .upload object) = some (.moved true, after) ∧ P after
  prompt : ∀ site, P site → b.queryDelay site = 0
  answers : ∀ site job, P site → ∃ after,
    b.ask? site job = some (.answered (.ok .done), after) ∧ P after

/-- Collaborators that follow a script are willing if they were not told otherwise: whoever
asks after a job hears that it is done. -/
structure Cast.IsWilling (d : Nat) (c : Cast) : Prop where
  preserves : c.directory.preserveFails = none
  accepts : c.plane.backupsRefused = none
  unfailing : c.plane.failures = []
  uncrashed : c.plane.crashAt = none
  next : ∀ status ∈ c.plane.statuses, status = .done
  last : c.plane.statuses = [] → c.plane.lastStatus = .done
  free : c.store.held = false
  uploads : c.store.uploadsFail = false
  prompt : c.queryDelay.nanos = 0
  takes : c.transferDelay.nanos = d

namespace Cast

/-- To one who asks they say that the job is done, and stay willing. -/
theorem IsWilling.ask {d : Nat} {c : Cast} (h : c.IsWilling d) :
    c.plane.ask.1 = .answered (.ok .done) ∧
      ({ c with plane := c.plane.ask.2 } : Cast).IsWilling d := by
  have huncrashed : c.plane.crashAt ≠ some (c.plane.queries + 1) := by simp [h.uncrashed]
  unfold ScriptedPlane.ask
  rw [if_neg huncrashed]
  simp only [h.unfailing]
  cases hstatuses : c.plane.statuses with
  | nil =>
      simp only [h.last hstatuses, true_and]
      exact { h with unfailing := rfl, next := nofun, last := fun _ => rfl }
  | cons status later =>
      have hdone : status = .done := h.next status (hstatuses ▸ List.mem_cons_self ..)
      subst hdone
      have hlater : ∀ status ∈ later, status = .done := fun status hmem =>
        h.next status (hstatuses ▸ List.mem_cons_of_mem _ hmem)
      exact ⟨rfl, { h with unfailing := rfl, next := hlater, last := fun _ => rfl }⟩

/-- They do what a backup asks for. -/
theorem backend_willing (d : Nat) : Cast.backend.Willing d (IsWilling d) where
  arrives c call h := by
    cases call with
    | move action object => cases action <;> exact { h with }
    | _ => exact h
  preserves c volume h := by
    refine ⟨{ c with directory := (c.directory.preserve volume).2 }, ?_, { h with preserves := ?_ }⟩
    · simp [backend, answer?, MemoryDirectory.preserve, h.preserves]
    · simp [MemoryDirectory.preserve, h.preserves]
  accepts c request h := by
    refine ⟨{ c with plane := (c.plane.createBackup request).2 }, ?_, { h with }⟩
    simp [backend, answer?, ScriptedPlane.createBackup, ScriptedPlane.unlessRefused, h.accepts]
  takes c object h := h.takes
  moves c object h := by
    refine ⟨{ c with store := c.store.put object }, ?_, { h with free := ?_, uploads := ?_ }⟩
    · simp [backend, answer?, MemoryStore.move, h.free, h.uploads]
    · unfold MemoryStore.put
      split <;> exact h.free
    · unfold MemoryStore.put
      split <;> exact h.uploads
  prompt c h := h.prompt
  answers c job h := by
    refine ⟨{ c with plane := c.plane.ask.2 }, ?_, h.ask.2⟩
    simp [backend, ask?, h.ask.1]

end Cast

namespace World

variable {b : Backend σ} {w after : World σ} {id : Nat} {op : Operation} {schedule : Schedule}

/-- **A whole backup.**  The claim is preserved, the job accepted, and then it goes on as
the transfer and its confirmation do. -/
theorem order_leads_to_confirmation {d : Nat} {P : σ → Prop} (willing : b.Willing d P)
    (hschedules : w.schedules.entries = []) (hwake : w.wakeAt.entries = [])
    (hrunning : w.endings.get? w.engine.next = none)
    (absent : w.engine.pollers.get? w.engine.next = none) (hsite : P w.site)
    {settings : Settings} {volumeId backupName snapshotId : String} {record : Volume}
    (known : w.engine.registry.volume? volumeId = some record)
    (idle : w.engine.registry.inFlight volumeId = false) (named : Text.blank backupName = false)
    (encodes : SnapshotId.encode volumeId backupName = .ok snapshotId)
    (early : d < settings.operationTimeout.nanos) :
    ∃ after endedAt,
      Leads b w.engine.next 12 (w.order b settings (.backup volumeId backupName) none) after ∧
      after.endings.get? w.engine.next =
        some
          ⟨some
            (if d = 0 ∧ settings.confirmGrace.nanos = 0 then
              .error (.backupNotConfirmed volumeId .pending
                (settings.namer.objectName volumeId backupName))
            else .ok (.backedUp snapshotId)), w.now, endedAt⟩ := by
  obtain ⟨r, ordered, hstarts⟩ := Backup.exists_start_waits settings known named encodes idle
  obtain ⟨htakes, rfl, rfl, rfl, hid, volume, hstage⟩ := Backup.start_waits hstarts
  obtain rfl := Except.ok.inj (encodes.symm.trans hid)
  have hstart : Operation.start w.engine.registry ordered.settings
      (.backup ordered.volumeId ordered.backupName) = .waits r (.backup ordered) := by
    rw [Operation.start, hstarts]
    rfl
  have happroaching := approaching_order b hschedules hwake hrunning absent hstart
  have hregistry : (w.order b ordered.settings (.backup ordered.volumeId ordered.backupName)
      none).engine.registry = r := by
    rw [World.order, engine_feed, Engine.step_starts hstart, Engine.registry_keep]
  have hordered : (w.order b ordered.settings (.backup ordered.volumeId ordered.backupName)
      none).site = w.site := site_feed ..
  generalize w.order b ordered.settings (.backup ordered.volumeId ordered.backupName) none = w₀
    at happroaching hregistry hordered ⊢
  -- The claim is preserved.
  have hcall : (Operation.backup ordered).call? = some (.preserveClaim volume) := by
    simp [Operation.call?, Backup.call?, hstage]
  obtain ⟨site₁, hpreserved, hsite₁⟩ :=
    willing.preserves _ volume (willing.arrives w₀.site (.preserveClaim volume) (hordered ▸ hsite))
  have hgoesOn : (Operation.backup ordered).resume w₀.engine.registry
      (.answered (.preserved (.ok ()))) =
        some (.waits w₀.engine.registry (.backup { ordered with stage := .ordering })) := by
    simp [Operation.resume, Backup.resume, hstage, Progress.map]
  obtain ⟨w₁, schedule₁, hleads₁, hordering, hregistry₁, hvisited₁, hstarted₁⟩ :=
    happroaching.approaches hcall hpreserved hgoesOn rfl
  -- The job is accepted.
  obtain ⟨site₂, haccepted, hsite₂⟩ := willing.accepts _ ordered.request
    (willing.arrives w₁.site (.createBackup ordered.request) (hvisited₁ ▸ hsite₁))
  have horders : (Call.createBackup ordered.request).job? = some ordered.request.job := rfl
  obtain ⟨w₂, schedule₂, action, object, hleads₂, hconfirming, hregistry₂, hvisited₂, hunderWay,
      hungraced, harrives, hlimit, hstarted₂⟩ :=
    hordering.accepted rfl horders haccepted (willing.prompt _ hsite₂)
      (Nat.zero_lt_of_lt early)
  obtain ⟨rfl, rfl⟩ := Prod.mk.inj (Option.some.inj hconfirming.moves)
  -- The data moves, and the job is done.
  rw [willing.takes _ _ hsite₂] at harrives
  have hnoted : w₂.engine.registry = r := hregistry₂.trans (hregistry₁.trans hregistry)
  obtain ⟨v, hknown⟩ := htakes.known
  obtain ⟨after, outcome, hleads₃, houtcome, hending⟩ :=
    hconfirming.confirmed rfl hunderWay hungraced harrives ⟨_, hlimit, Nat.add_lt_add_left early _⟩
      (hnoted ▸ hknown) (hnoted ▸ htakes.reset) (hvisited₂ ▸ hsite₂)
      (fun site h => willing.moves _ _ (willing.arrives site _ h))
      (fun site h => willing.answers site _ h)
  have hheard : (Operation.backup ordered).outcome?
      (.heard (if d = 0 ∧ ordered.settings.confirmGrace.nanos = 0 then .pending else .done)) =
        some outcome := houtcome
  refine ⟨after, w₂.now + d, (hleads₁.trans hleads₂).trans hleads₃, ?_⟩
  rw [hending, hstarted₂, hstarted₁]
  by_cases hinstant : d = 0 ∧ ordered.settings.confirmGrace.nanos = 0
  · rw [if_pos hinstant] at hheard ⊢
    rw [← Option.some.inj hheard]
    rfl
  · rw [if_neg hinstant] at hheard ⊢
    rw [← Option.some.inj hheard]
    rfl

open Engine

/-- **A finished job is confirmed, unless nothing takes any time.**  A volume is known and
nobody is at work on it, the name is of use, the collaborators are willing, and the upload
takes less than the time limit.  Then a backup by itself succeeds, except when neither the
upload nor the grace takes any time: then it ends without a single question, and the job
counts as pending. -/
theorem finished_jobs_confirmed_unless_instant (b : Backend σ) {d : Nat} {P : σ → Prop}
    (willing : b.Willing d P) (r : Registry) (stimuli : List Stimulus) (site : σ) (hsite : P site)
    (now : Nat) (settings : Settings) {volumeId backupName snapshotId : String} {record : Volume}
    (known : ((ofRegistry r).run stimuli).1.registry.volume? volumeId = some record)
    (idle : ((ofRegistry r).run stimuli).1.registry.inFlight volumeId = false)
    (named : Text.blank backupName = false)
    (encodes : SnapshotId.encode volumeId backupName = .ok snapshotId)
    (early : d < settings.operationTimeout.nanos) :
    let start : World σ := { ofEngine ((ofRegistry r).run stimuli).1 site with now := now }
    let id := start.engine.next
    let ended := (start.order b settings (.backup volumeId backupName) none).runUntilOver b [id]
    ∃ endedAt, ended.endings.get? id =
      some
        ⟨some
          (if d = 0 ∧ settings.confirmGrace.nanos = 0 then
            .error (.backupNotConfirmed volumeId .pending
              (settings.namer.objectName volumeId backupName))
          else .ok (.backedUp snapshotId)), now, endedAt⟩ := by
  intro start id ended
  have habsent := (owned_trace (trace_run r stimuli)).absent_next.2
  obtain ⟨after, endedAt, hleads, hending⟩ :=
    order_leads_to_confirmation (w := start) willing rfl rfl rfl habsent hsite known idle named
      encodes early
  have hended : ended = after := hleads.runUntilOver ⟨_, hending⟩ (by decide)
  exact ⟨endedAt, hended ▸ hending⟩

/-- Collaborators to whom a job is done at once, and the data moves in a set time. -/
def promptCast (transferTime : Nat) : Cast :=
  { Cast.ofDirectory (.ofClaims (Table.empty.insert "pvc-1" "apps")) with
    plane := { ScriptedPlane.empty with lastStatus := .done }
    transferDelay := ⟨transferTime⟩ }

theorem isWilling_promptCast (transferTime : Nat) :
    (promptCast transferTime).IsWilling transferTime where
  preserves := rfl
  accepts := rfl
  unfailing := rfl
  uncrashed := rfl
  next := nofun
  last _ := rfl
  free := rfl
  uploads := rfl
  prompt := rfl
  takes := rfl

/-- The settings that leave a job no time to report its end. -/
def graceless : Settings := { Settings.default "mover:9000" with confirmGrace := ⟨0⟩ }

/-- With an upload of two seconds no grace is needed. -/
theorem finished_jobs_confirmed_unless_instant_daily :
    let start : World Cast :=
      { ofEngine ((ofRegistry oneVolume).run []).1 (promptCast 2000000000) with now := 0 }
    (Cast.backend.Willing 2000000000 (Cast.IsWilling 2000000000)) ∧
      (promptCast 2000000000).IsWilling 2000000000 ∧
      oneVolume.volume? "pvc-1" = some (.fresh "pvc-1" "apps" "cstor") ∧
      oneVolume.inFlight "pvc-1" = false ∧ Text.blank "daily-01" = false ∧
      SnapshotId.encode "pvc-1" "daily-01" = .ok "pvc-1-velero-bkp-daily-01" ∧
      2000000000 < graceless.operationTimeout.nanos ∧
      ∃ endedAt,
        ((start.order Cast.backend graceless (.backup "pvc-1" "daily-01") none).runUntilOver
          Cast.backend [0]).endings.get? 0 =
            some ⟨some (.ok (.backedUp "pvc-1-velero-bkp-daily-01")), 0, endedAt⟩ := by
  intro start
  have hwilling := Cast.backend_willing 2000000000
  have hcast := isWilling_promptCast 2000000000
  have hencodes : SnapshotId.encode "pvc-1" "daily-01" = .ok "pvc-1-velero-bkp-daily-01" := by
    decide
  have hblank : Text.blank "daily-01" = false := by decide
  have hearly : 2000000000 < graceless.operationTimeout.nanos := by decide
  exact ⟨hwilling, hcast, rfl, rfl, hblank, hencodes, hearly,
    finished_jobs_confirmed_unless_instant Cast.backend hwilling oneVolume []
      (promptCast 2000000000) hcast 0 graceless rfl rfl hblank hencodes hearly⟩

/-- A configuration that leaves a job no time to report its end. -/
def gracelessConfig : Config where
  managementNamespace := "openebs"
  controlPlaneUrl := none
  serverAddr := "mover:9000"
  requestTimeout := 30
  pollInterval := 5
  operationTimeout := 3600
  confirmGrace := 0
  moverProgram := "cstor-mover"
  objectDirectory := none

/-- Under a valid configuration an upload that takes no time is not confirmed, although the
job is done and would be said to be, had it been asked after. -/
theorem instant_backup_not_confirmed :
    let start : World Cast := ofEngine (ofRegistry oneVolume) (promptCast 0)
    let ended :=
      (start.order Cast.backend graceless (.backup "pvc-1" "daily-01") none).runUntilOver
        Cast.backend [0]
    gracelessConfig.settings = .ok graceless ∧ 0 < graceless.operationTimeout.nanos ∧
      Cast.backend.Willing 0 (Cast.IsWilling 0) ∧ (promptCast 0).IsWilling 0 ∧
      oneVolume.volume? "pvc-1" = some (.fresh "pvc-1" "apps" "cstor") ∧
      oneVolume.inFlight "pvc-1" = false ∧ Text.blank "daily-01" = false ∧
      SnapshotId.encode "pvc-1" "daily-01" = .ok "pvc-1-velero-bkp-daily-01" ∧
      (ended.endings.get? 0).map (·.outcome) =
        some (some (.error (.backupNotConfirmed "pvc-1" .pending "daily-01/cstor-pvc-1"))) ∧
      ended.site.plane.queries = 0 := by
  intro start ended
  have hsettings : gracelessConfig.settings = .ok graceless := by decide
  have hencodes : SnapshotId.encode "pvc-1" "daily-01" = .ok "pvc-1-velero-bkp-daily-01" := by
    decide
  have houtcome : (ended.endings.get? 0).map (·.outcome) =
      some (some (.error (.backupNotConfirmed "pvc-1" .pending "daily-01/cstor-pvc-1"))) := by
    decide +kernel
  have hasked : ended.site.plane.queries = 0 := by decide +kernel
  exact ⟨hsettings, by decide, Cast.backend_willing 0, isWilling_promptCast 0, rfl, rfl, by decide,
    hencodes, houtcome, hasked⟩

end World

end SnapshotEngine
