import SnapshotEngine.Config
import SnapshotEngine.Proofs.Engine.WellFormed

/-!
# What a backup request holds

The control plane is told the volume, the series and the name of a backup, where the data
goes and whose claim it is.  These come from five places: the order, the name in the order,
the settings, and the record of the volume, which came with a claim or with a restore.  Each
is checked where it comes in, except for the series: it is what stands before the last hyphen
of the name, and nobody looks at it again.  So a request holds all five exactly if something
stands there.

* `BackupRequest.Complete` — all five are there;
* `Trace.backup_of_request` — the backup behind a request;
* `run_backup_requests` — a backup that may start does send its request;
* `backup_requests_complete_iff` — which requests are complete;
* `backup_request_without_series` — one that is not.
-/

namespace SnapshotEngine

/-- Nothing in a request is blank. -/
structure BackupRequest.Complete (request : BackupRequest) : Prop where
  volumeId : Text.blank request.volumeId = false
  seriesName : Text.blank request.seriesName = false
  backupName : Text.blank request.backupName = false
  destination : Text.blank request.destination = false
  claimNamespace : Text.blank request.claimNamespace = false

namespace Engine

variable {e : Engine} {stimuli : List Stimulus} {events : List Event}

/-- Behind a backup request stands a backup that was ordered, and it is the request of that
backup. -/
theorem Trace.backup_of_request {r : Registry} {id : Nat} {request : BackupRequest}
    (h : Trace r stimuli e events) (hmem : .called id (.createBackup request) ∈ events) :
    ∃ first rest e₁ past later b order, stimuli = first ++ rest ∧ events = past ++ later ∧
      Trace r first e₁ past ∧ e₁.operations.get? id = some (.backup b) ∧ request = b.request ∧
        (b.settings, order) ∈ ordersOf stimuli := by
  obtain ⟨first, rest, e₁, past, later, op, rfl, rfl, htrace, hop, hcall⟩ := h.caller hmem
  obtain ⟨b, rfl, _, rfl⟩ := Operation.of_call?_createBackup hcall
  obtain ⟨settings, order, horder, hserves⟩ := (serving_trace htrace).serves id _ hop
  obtain ⟨_, rfl, _⟩ := hserves.of_backup
  refine ⟨first, rest, e₁, past, later, b, order, rfl, rfl, htrace, hop, rfl, ?_⟩
  rw [ordersOf, List.filterMap_append]
  exact List.mem_append_left _ (List.mem_of_getElem? horder)

/-- All that a request holds is there but for the series, if the settings are those of a
valid configuration. -/
theorem Trace.backup_request_usable {id : Nat} {request : BackupRequest}
    (h : Trace .empty stimuli e events) (hmem : .called id (.createBackup request) ∈ events)
    (configured : ∀ settings order, (settings, order) ∈ ordersOf stimuli →
      ∃ c : Config, c.settings = .ok settings) :
    request.seriesName = seriesName request.backupName ∧
      Text.blank request.volumeId = false ∧ Text.blank request.backupName = false ∧
      Text.blank request.destination = false ∧ Text.blank request.claimNamespace = false := by
  obtain ⟨first, _, e₁, _, _, b, order, _, _, htrace, found, rfl, horder⟩ :=
    h.backup_of_request hmem
  obtain ⟨v, hv, hclaim⟩ := (housed_trace htrace fun _ => rfl).backups id b found
  have hvolume : v.WellFormed b.volumeId := volumes_wellFormed_trace htrace b.volumeId v hv
  obtain ⟨c, hc⟩ := configured b.settings order horder
  refine ⟨rfl, ?_, (usable_trace htrace).backups id b found, Config.blank_serverAddr_of_settings hc,
    ?_⟩
  · rw [Backup.request, ← hvolume.own]
    exact hvolume.named
  · rw [Backup.request, ← hclaim]
    exact hvolume.claimed

/-- A backup of a known volume that nobody is at work on has the claim kept and then sends
its request, under any name that is not blank and that makes an identifier. -/
theorem run_backup_requests (settings : Settings) {volumeId backupName snapshotId : String}
    {v : Volume} (known : e.registry.volume? volumeId = some v)
    (named : Text.blank backupName = false)
    (encodes : SnapshotId.encode volumeId backupName = .ok snapshotId)
    (idle : e.registry.inFlight volumeId = false) :
    ∃ request, request.volumeId = volumeId ∧ request.backupName = backupName ∧
      .called e.next (.createBackup request) ∈
        (e.run [.ordered settings (.backup volumeId backupName),
          .signalled e.next (.answered (.preserved (.ok ())))]).2 := by
  obtain ⟨r, b, hstart⟩ := Backup.exists_start_waits settings known named encodes idle
  obtain ⟨_, _, rfl, rfl, _, w, hstage⟩ := Backup.start_waits hstart
  have hordered : Operation.start e.registry settings (.backup b.volumeId b.backupName) =
      .waits r (.backup b) := by
    rw [Operation.start, hstart, Progress.map]
  have hresume : (Operation.backup b).resume r (.answered (.preserved (.ok ()))) =
      some (.waits r (.backup { b with stage := .ordering })) := by
    simp only [Operation.resume, Backup.resume, hstage, Option.map_some, Progress.map]
  refine ⟨b.request, rfl, rfl, ?_⟩
  rw [run_started_goesOn hordered hresume]
  simp [callEvents, Operation.call?, Backup.call?, Backup.request]

/-- **Backup requests.**  Whatever happens to an engine that knew nothing, if all settings are
those of valid configurations: every backup request holds the volume, the name, the
destination and the namespace, and its series exactly if its name has something before its
last hyphen.  And a backup of a known volume that nobody is at work on does send a request,
under whatever name. -/
theorem backup_requests_complete_iff (stimuli : List Stimulus)
    (configured : ∀ settings order, (settings, order) ∈ ordersOf stimuli →
      ∃ c : Config, c.settings = .ok settings) :
    let e := (empty.run stimuli).1
    (∀ id request, .called id (.createBackup request) ∈ (empty.run stimuli).2 →
      Text.blank request.volumeId = false ∧ Text.blank request.backupName = false ∧
        Text.blank request.destination = false ∧ Text.blank request.claimNamespace = false ∧
        (request.Complete ↔ ¬ Headless request.backupName)) ∧
      ∀ settings volumeId backupName snapshotId v, e.registry.volume? volumeId = some v →
        Text.blank backupName = false →
        SnapshotId.encode volumeId backupName = .ok snapshotId →
        e.registry.inFlight volumeId = false →
          ∃ request, request.volumeId = volumeId ∧ request.backupName = backupName ∧
            .called e.next (.createBackup request) ∈
              (e.run [.ordered settings (.backup volumeId backupName),
                .signalled e.next (.answered (.preserved (.ok ())))]).2 := by
  intro e
  refine ⟨?_, fun settings _ _ _ _ => run_backup_requests settings⟩
  intro id request hmem
  obtain ⟨hseries, hvolume, hname, hdestination, hclaim⟩ :=
    (trace_run .empty stimuli).backup_request_usable hmem configured
  refine ⟨hvolume, hname, hdestination, hclaim, ?_⟩
  have hblank : Text.blank request.seriesName ↔ Headless request.backupName := by
    rw [hseries, blank_seriesName_iff]
    exact or_iff_right (ne_true_of_eq_false hname)
  rw [← hblank, Bool.not_eq_true]
  exact ⟨fun complete => complete.seriesName,
    fun named => ⟨hvolume, named, hname, hdestination, hclaim⟩⟩

/-- A valid configuration. -/
def siteConfig : Config where
  managementNamespace := "openebs"
  controlPlaneUrl := none
  serverAddr := " mover:9000 "
  requestTimeout := 60
  pollInterval := 5
  operationTimeout := 3600
  confirmGrace := 30
  moverProgram := "cstor-transfer"
  objectDirectory := none

/-- A volume is discovered. -/
def volumeDiscovered : List Stimulus :=
  [.reported ⟨"pvc-1", "cstor", some "apps", .ofList [(engineLabel, engineName)], .bound⟩]

/-- A backup of that volume is ordered under a name and has the claim kept. -/
def backupNamed (backupName : String) : List Stimulus :=
  [.ordered siteConfig.asSettings (.backup "pvc-1" backupName),
    .signalled 0 (.answered (.preserved (.ok ())))]

/-- What is seen of the two, if the name will do. -/
def backupNamedEvents (backupName : String) : List Event :=
  let record := { Volume.fresh "pvc-1" "apps" "cstor" with backupName := backupName }
  [.discovered (.ok (some "pvc-1")), .called 0 (.preserveClaim record),
    .answered 0 (.preserveClaim record) (.preserved (.ok ())),
    .called 0 (.createBackup
      ⟨"pvc-1", seriesName backupName, backupName, "mover:9000", "apps"⟩)]

theorem backup_requests_complete_iff_daily :
    let stimuli := volumeDiscovered ++ backupNamed "daily-01"
    let request : BackupRequest := ⟨"pvc-1", "daily", "daily-01", "mover:9000", "apps"⟩
    (∀ settings order, (settings, order) ∈ ordersOf stimuli →
      ∃ c : Config, c.settings = .ok settings) ∧
    .called 0 (.createBackup request) ∈ (Engine.empty.run stimuli).2 ∧ request.Complete ∧
    ∃ sent : BackupRequest, sent.backupName = "daily-01" ∧
      .called 0 (.createBackup sent) ∈
        ((Engine.empty.run volumeDiscovered).1.run (backupNamed "daily-01")).2 := by
  intro stimuli request
  have hconfigured : ∀ settings order, (settings, order) ∈ ordersOf stimuli →
      ∃ c : Config, c.settings = .ok settings := by
    intro settings order hmem
    cases List.mem_singleton.mp hmem
    exact ⟨siteConfig, rfl⟩
  have hevents : (Engine.empty.run stimuli).2 = backupNamedEvents "daily-01" := rfl
  have hseries : seriesName "daily-01" = "daily" := rfl
  have hmem : .called 0 (.createBackup request) ∈ (Engine.empty.run stimuli).2 := by
    simp [hevents, backupNamedEvents, hseries, request]
  have hheaded : ¬ Headless "daily-01" := by
    intro hheadless
    have hblank : Text.blank (seriesName "daily-01") := blank_seriesName_iff.mpr (.inr hheadless)
    exact absurd hblank (by decide)
  obtain ⟨hrequests, _⟩ := backup_requests_complete_iff stimuli hconfigured
  obtain ⟨_, hsends⟩ := backup_requests_complete_iff volumeDiscovered fun _ _ hmem => by cases hmem
  obtain ⟨sent, _, hname, hsent⟩ := hsends siteConfig.asSettings "pvc-1" "daily-01" _
    (.fresh "pvc-1" "apps" "cstor") rfl rfl rfl rfl
  exact ⟨hconfigured, hmem, (hrequests 0 request hmem).2.2.2.2.mpr hheaded, sent, hname, hsent⟩

/-- **No series.**  A backup whose name starts with its only hyphen is accepted, and its request
goes out with a series that has no name. -/
theorem backup_request_without_series :
    siteConfig.settings = .ok siteConfig.asSettings ∧
      ∃ request : BackupRequest,
        .called 0 (.createBackup request) ∈
            (Engine.empty.run (volumeDiscovered ++ backupNamed "-01")).2 ∧
          request.backupName = "-01" ∧ request.seriesName = "" ∧ ¬ request.Complete := by
  have hevents : (Engine.empty.run (volumeDiscovered ++ backupNamed "-01")).2 =
      backupNamedEvents "-01" := rfl
  have hseries : seriesName "-01" = "" := rfl
  refine ⟨rfl, ⟨"pvc-1", "", "-01", "mover:9000", "apps"⟩, ?_, rfl, rfl, ?_⟩
  · simp [hevents, backupNamedEvents, hseries]
  · intro complete
    exact absurd complete.seriesName (by decide)

end Engine

end SnapshotEngine
