import SnapshotEngine.Proofs.Operation.Step

/-!
# How far an operation has got

The calls of an operation are settled by where it stands: a backup has had the claim
kept before it orders its job, a restore has been provided with a volume, and a removal
has had the backup deleted before it turns to the object.  So the calls that were
answered, with their answers, can be read off the stage of an operation in progress, and
off the outcome of one that has ended.

* `CameBy`, `came_of_start`, `CameBy.goesOn` — what was answered so far;
* `Account`, `CameBy.account` — what was called for and answered in the end, exit by exit;
* `Account.tells`, `Account.tells_ok` — what of it the outcome tells;
* `CameBy.engaged`, `CameBy.moved` — whoever holds a marker, or has a transfer, has
  called for something.
-/

namespace SnapshotEngine

/-- A call that was answered, and its answer. -/
abbrev Answered := Call × Answer

/-- The call that a signal answers, if it brings the answer that is waited for. -/
def Signal.completes (waited : Option Call) : Signal → List Answered
  | .answered answer => waited.toList.map (·, answer)
  | _ => []

/-- Whether a call is made by an operation that holds the marker of a volume. -/
def Call.engages : Call → Bool
  | .preserveClaim _ | .createBackup _ | .createRestore _ => true
  | .move action _ => action != .delete
  | .provision _ _ | .claimNamespace _ | .deleteBackup _ _ _ => false

/-- How the data of an order comes to be moved: the claim is kept, or a volume is
provided, and the job is accepted. -/
inductive SetsOut (settings : Settings) :
    Order → List Answered → JobHandle → TransferAction → String → Prop where
  | backup {volumeId backupName : String} {volume : Volume} {request : BackupRequest}
      {job : JobHandle} (ofVolume : request.volumeId = volumeId)
      (named : request.backupName = backupName) :
      SetsOut settings (.backup volumeId backupName)
        [(.preserveClaim volume, .preserved (.ok ())),
          (.createBackup request, .accepted (.ok job))]
        job .upload (settings.namer.objectName volumeId backupName)
  | restore {snapshotId kind volumeId backupName : String} {provided : Volume}
      {request : RestoreRequest} {job : JobHandle}
      (decode : SnapshotId.decode snapshotId = .ok (volumeId, backupName))
      (into : request.volumeId = provided.name) (named : request.backupName = backupName) :
      SetsOut settings (.restore snapshotId kind)
        [(.provision volumeId backupName, .provisioned (.ok provided)),
          (.createRestore request, .accepted (.ok job))]
        job .download (settings.namer.objectName volumeId backupName)

/-- Nothing is deleted for a job. -/
theorem SetsOut.action_ne {settings : Settings} {order : Order} {before : List Answered}
    {job : JobHandle} {action : TransferAction} {object : String}
    (h : SetsOut settings order before job action object) : action ≠ .delete := by
  cases h <;> exact TransferAction.noConfusion

/-- How a snapshot comes to be deleted in the control plane: at once, or after its
namespace was looked up. -/
inductive Withdraws (s : Snapshot) : List Answered → Prop where
  | kept {result : Except ControlPlaneError Unit} (gone : Removal.Retracts result) :
      Withdraws s
        [(.deleteBackup s.volumeId s.backupName s.claimNamespace, .retracted result)]
  | located {found : Except DirectoryError String} {result : Except ControlPlaneError Unit}
      (gone : Removal.Retracts result) :
      Withdraws s
        [(.claimNamespace s.volumeId, .located found),
          (.deleteBackup s.volumeId s.backupName s.claimNamespace, .retracted result)]

/-- What was answered to an operation with a transfer: its data has moved once the
transfer is over. -/
def Confirmation.CameBy (settings : Settings) (order : Order) (answered : List Answered)
    (c : Confirmation) : Prop :=
  ∃ before, SetsOut settings order before c.job c.action c.object ∧
    answered =
      if c.stage = .transferring then before
      else before ++ [(.move c.action c.object, .moved true)]

namespace Operation

/-- What was answered to an operation in progress. -/
def CameBy (settings : Settings) (order : Order) (answered : List Answered) :
    Operation → Prop
  | .backup b =>
      match b.stage with
      | .preserving _ => answered = []
      | .ordering => ∃ volume, answered = [(.preserveClaim volume, .preserved (.ok ()))]
      | .confirming c => c.CameBy settings order answered
  | .restore t =>
      match t.stage with
      | .provisioning => answered = []
      | .ordering target => ∃ provided, target.name = provided.name ∧
          answered = [(.provision t.volumeId t.backupName, .provisioned (.ok provided))]
      | .confirming _ c => c.CameBy settings order answered
  | .removal d =>
      match d.stage with
      | .locating _ _ => answered = []
      | .retracting s => answered = [] ∨
          ∃ found, answered = [(.claimNamespace s.volumeId, .located found)]
      | .erasing s => Withdraws s answered

variable {settings : Settings} {order : Order} {answered : List Answered}

/-- An operation starts with nothing answered. -/
theorem came_of_start {r r' : Registry} {op : Operation}
    (h : start r settings order = .waits r' op) : op.CameBy settings order [] := by
  cases op with
  | backup b =>
      obtain ⟨_, _, _, hstart⟩ := backup_of_start h
      obtain ⟨_, _, _, _, _, v, hstage⟩ := Backup.start_waits hstart
      simp only [CameBy, hstage]
  | restore t =>
      obtain ⟨_, _, _, hstart⟩ := restore_of_start h
      obtain ⟨_, _, hstage, _⟩ := Restore.start_waits hstart
      simp only [CameBy, hstage]
  | removal d =>
      obtain ⟨_, _, hstart⟩ := removal_of_start h
      obtain ⟨_, _, _, ⟨s, _, hstage⟩ | ⟨_, _, _, hstage⟩⟩ := Removal.start_waits hstart
      · simp [CameBy, hstage]
      · simp only [CameBy, hstage]

end Operation

/-! ## Going on -/

/-- A transfer that starts has had nothing answered yet. -/
theorem Confirmation.came_of_start {settings : Settings} {order : Order}
    {before : List Answered} {job : JobHandle} {action : TransferAction} {object : String}
    (h : SetsOut settings order before job action object) :
    (Confirmation.start job action object).CameBy settings order before :=
  ⟨before, h, rfl⟩

/-- A transfer that goes on does so because its data has moved, or without an answer once
it has. -/
theorem Confirmation.CameBy.goesOn {settings : Settings} {order : Order}
    {answered : List Answered} {c c' : Confirmation} {signal : Signal}
    (h : c.CameBy settings order answered) (advance : c.advance signal = some (.continues c')) :
    c'.CameBy settings order (answered ++ signal.completes c.call?) ∧
      (signal.completes c.call?).map Prod.fst = c.call?.toList := by
  obtain ⟨before, hout, hanswered⟩ := h
  rcases advance_eq_continues advance with ⟨rfl, hstage, rfl⟩ | ⟨rfl, hstage, rfl⟩
  · rw [if_pos hstage] at hanswered
    rw [c.call?_eq, if_pos hstage, hanswered]
    exact ⟨⟨before, hout, rfl⟩, rfl⟩
  · have hmoved : c.stage ≠ .transferring := by
      rw [hstage]
      exact ConfirmationStage.noConfusion
    rw [if_neg hmoved] at hanswered
    rw [c.call?_eq, if_neg hmoved, hanswered]
    exact ⟨⟨before, hout, by simp [Signal.completes]⟩, rfl⟩

namespace Backup

variable {settings : Settings} {order : Order} {answered : List Answered}

theorem came_of_goesOn {b b' : Backup} {signal : Signal}
    (h : Operation.CameBy settings order answered (.backup b))
    (serves : Operation.Serves settings order (.backup b)) (goes : b.GoesOn signal b') :
    Operation.CameBy settings order (answered ++ signal.completes b.call?) (.backup b') ∧
      (signal.completes b.call?).map Prod.fst = b.call?.toList := by
  cases goes with
  | preserved stage =>
      simp only [Operation.CameBy, stage] at h
      simp only [h, call?, stage]
      exact ⟨⟨_, rfl⟩, rfl⟩
  | accepted stage =>
      rename_i job
      simp only [Operation.CameBy, stage] at h
      obtain ⟨volume, rfl⟩ := h
      simp only [call?, stage]
      refine ⟨Confirmation.came_of_start ?_, rfl⟩
      obtain ⟨rfl, rfl, _⟩ := serves.of_backup
      exact .backup rfl rfl
  | continued stage advance =>
      simp only [Operation.CameBy, stage] at h
      simp only [call?, stage]
      exact h.goesOn advance

end Backup

namespace Restore

variable {settings : Settings} {order : Order} {answered : List Answered}

theorem came_of_goesOn {r r' : Registry} {t t' : Restore} {signal : Signal}
    (h : Operation.CameBy settings order answered (.restore t))
    (serves : Operation.Serves settings order (.restore t)) (goes : t.GoesOn r signal r' t') :
    Operation.CameBy settings order (answered ++ signal.completes t.call?) (.restore t') ∧
      (signal.completes t.call?).map Prod.fst = t.call?.toList := by
  cases goes with
  | provided stage target =>
      rename_i provided
      obtain ⟨_, rfl, _⟩ := target_waits target
      simp only [Operation.CameBy, stage] at h
      simp only [h, call?, stage]
      exact ⟨⟨provided, rfl, rfl⟩, rfl⟩
  | accepted stage =>
      rename_i target job
      simp only [Operation.CameBy, stage] at h
      obtain ⟨provided, hname, rfl⟩ := h
      simp only [call?, stage]
      refine ⟨Confirmation.came_of_start ?_, rfl⟩
      obtain ⟨snapshotId, kind, rfl, rfl, hdecode⟩ := serves.of_restore
      exact .restore hdecode hname rfl
  | continued stage advance =>
      simp only [Operation.CameBy, stage] at h
      simp only [call?, stage]
      exact h.goesOn advance

end Restore

namespace Removal

variable {settings : Settings} {order : Order} {answered : List Answered}

theorem came_of_resume {r r' : Registry} {d d' : Removal} {signal : Signal}
    (h : Operation.CameBy settings order answered (.removal d))
    (resume : d.resume r signal = some (.waits r' d')) :
    Operation.CameBy settings order (answered ++ signal.completes d.call?) (.removal d') ∧
      (signal.completes d.call?).map Prod.fst = d.call?.toList := by
  cases (goesOn_of_resume resume).2 with
  | located stage claimNamespace =>
      simp only [Operation.CameBy, stage] at h
      simp only [h, call?, stage]
      exact ⟨.inr ⟨_, rfl⟩, rfl⟩
  | retracted stage =>
      have hgone := retracts_of_resume stage resume
      simp only [Operation.CameBy, stage] at h
      simp only [call?, stage]
      refine ⟨?_, rfl⟩
      rcases h with rfl | ⟨found, rfl⟩
      · exact .kept hgone
      · exact .located hgone

end Removal

/-- **Going on.**  An operation goes on with the answer to the call that it has waited
for, or without one if it has waited for none. -/
theorem Operation.CameBy.goesOn {settings : Settings} {order : Order}
    {answered : List Answered} {r r' : Registry} {op next : Operation} {signal : Signal}
    (h : op.CameBy settings order answered) (serves : op.Serves settings order)
    (resume : op.resume r signal = some (.waits r' next)) :
    next.CameBy settings order (answered ++ signal.completes op.call?) ∧
      (signal.completes op.call?).map Prod.fst = op.call?.toList := by
  cases op with
  | backup b =>
      obtain ⟨_, hp, rfl⟩ := Progress.some_waits_of_map resume
      exact Backup.came_of_goesOn h serves (Backup.goesOn_of_resume hp).2
  | restore t =>
      obtain ⟨_, hp, rfl⟩ := Progress.some_waits_of_map resume
      exact Restore.came_of_goesOn h serves (Restore.goesOn_of_resume hp)
  | removal d =>
      obtain ⟨_, hp, rfl⟩ := Progress.some_waits_of_map resume
      exact Removal.came_of_resume h hp

/-! ## Ending -/

/-- What an operation has called for and what was answered to it, by the way it has
ended. -/
inductive Account (settings : Settings) (order : Order) (noted : Registry) :
    List Call → List Answered → Outcome → Prop where
  /-- A check has failed as it was ordered. -/
  | refused {cause : Failure}
      (start : Operation.start noted settings order = .ends noted (.error cause)) :
      Account settings order noted [] [] (.error cause)
  /-- The volume that a restore was provided with will not do. -/
  | unsuited {snapshotId kind : String} {t : Restore} {provided : Volume} {cause : Failure}
      (restores : order = .restore snapshotId kind)
      (target : t.target noted provided = .ends noted (.error cause)) :
      Account settings order noted [.provision t.volumeId t.backupName]
        [(.provision t.volumeId t.backupName, .provisioned (.ok provided))] (.error cause)
  /-- A snapshot that is not kept cannot be made up. -/
  | unlocated {snapshotId volumeId : String} {found : Except DirectoryError String}
      {cause : Failure} (removes : order = .removal snapshotId)
      (unchecked : cause.phase = .validation) :
      Account settings order noted [.claimNamespace volumeId]
        [(.claimNamespace volumeId, .located found)] (.error cause)
  /-- A command has failed before anything was moved. -/
  | uncommanded {calls : List Call} {answered : List Answered} {cause : Failure}
      (failed : cause.phase = .command) (still : ∀ action object, .move action object ∉ calls) :
      Account settings order noted calls answered (.error cause)
  /-- The transfer has failed. -/
  | unmoved {before : List Answered} {job : JobHandle} {action : TransferAction}
      {object : String} (out : SetsOut settings order before job action object) :
      Account settings order noted (before.map Prod.fst ++ [.move action object])
        (before ++ [(.move action object, .moved false)])
        (.error (.transferFailed ⟨action, object⟩))
  /-- The time limit was reached, before the data has moved or after. -/
  | timedOut {before more : List Answered} {job : JobHandle} {action : TransferAction}
      {object volumeId : String} (out : SetsOut settings order before job action object)
      (early : more = [] ∨ more = [(.move action object, .moved true)]) :
      Account settings order noted (before.map Prod.fst ++ [.move action object])
        (before ++ more) (.error (.timeout volumeId settings.operationTimeout))
  /-- What was noted of the job has decided. -/
  | decided {before : List Answered} {job : JobHandle} {action : TransferAction}
      {object : String} {outcome : Outcome}
      (out : SetsOut settings order before job action object)
      (status : Outcome.status? outcome = some (noted.statusOf job))
      (confirms : (∃ success, outcome = .ok success) ↔ noted.statusOf job = .done) :
      Account settings order noted (before.map Prod.fst ++ [.move action object])
        (before ++ [(.move action object, .moved true)]) outcome
  /-- The object of a snapshot was deleted. -/
  | erased {snapshotId object : String} {s : Snapshot} {before : List Answered}
      (removes : order = .removal snapshotId) (withdraws : Withdraws s before)
      (names : object = settings.namer.objectName s.volumeId s.backupName) :
      Account settings order noted (before.map Prod.fst ++ [.move .delete object])
        (before ++ [(.move .delete object, .moved true)]) (.ok .deleted)
  /-- The object of a snapshot was not to be deleted. -/
  | unerased {snapshotId object : String} {s : Snapshot} {before : List Answered}
      (removes : order = .removal snapshotId) (withdraws : Withdraws s before)
      (names : object = settings.namer.objectName s.volumeId s.backupName) :
      Account settings order noted (before.map Prod.fst ++ [.move .delete object])
        (before ++ [(.move .delete object, .moved false)]) (.error (.remoteDeleteFailed object))

namespace Confirmation.CameBy

variable {settings : Settings} {order : Order} {answered : List Answered} {c : Confirmation}
  {signal : Signal} {r : Registry}

theorem failed {cause : TransferError} (h : c.CameBy settings order answered)
    (advance : c.advance signal = some (.failed cause)) :
    Account settings order r (answered.map Prod.fst ++ c.call?.toList)
      (answered ++ signal.completes c.call?) (.error (.transferFailed cause)) := by
  obtain ⟨before, hout, hanswered⟩ := h
  obtain ⟨rfl, hstage, rfl⟩ := advance_eq_failed advance
  rw [if_pos hstage] at hanswered
  rw [c.call?_eq, if_pos hstage, hanswered]
  exact .unmoved hout

theorem timedOut (h : c.CameBy settings order answered)
    (advance : c.advance signal = some .timedOut) (volumeId : String) :
    Account settings order r (answered.map Prod.fst ++ c.call?.toList)
      (answered ++ signal.completes c.call?)
      (.error (.timeout volumeId settings.operationTimeout)) := by
  obtain ⟨before, hout, hanswered⟩ := h
  cases advance_eq_timedOut advance
  by_cases hstage : c.stage = .transferring
  · rw [if_pos hstage] at hanswered
    rw [c.call?_eq, if_pos hstage, hanswered]
    exact .timedOut hout (.inl rfl)
  · rw [if_neg hstage] at hanswered
    rw [c.call?_eq, if_neg hstage, hanswered]
    have hlate : Account settings order r (before.map Prod.fst ++ [.move c.action c.object])
        (before ++ [(.move c.action c.object, .moved true)])
        (.error (.timeout volumeId settings.operationTimeout)) := .timedOut hout (.inr rfl)
    simpa [Signal.completes] using hlate

theorem settled (h : c.CameBy settings order answered)
    (advance : c.advance signal = some .settled) {outcome : Outcome}
    (status : Outcome.status? outcome = some (r.statusOf c.job))
    (confirms : (∃ success, outcome = .ok success) ↔ r.statusOf c.job = .done) :
    Account settings order r (answered.map Prod.fst ++ c.call?.toList)
      (answered ++ signal.completes c.call?) outcome := by
  obtain ⟨before, hout, hanswered⟩ := h
  obtain ⟨rfl, hstage⟩ := advance_eq_settled advance
  rw [if_neg hstage] at hanswered
  rw [c.call?_eq, if_neg hstage, hanswered]
  simpa [Signal.completes] using Account.decided hout status confirms

end Confirmation.CameBy

section

variable {settings : Settings} {order : Order} {answered : List Answered} {r r' : Registry}
  {signal : Signal} {outcome : Outcome}

/-- How a backup ends. -/
theorem Backup.account_of_ends {b : Backup}
    (h : Operation.CameBy settings order answered (.backup b))
    (serves : Operation.Serves settings order (.backup b)) (ends : b.Ends r signal r' outcome) :
    Account settings order r (answered.map Prod.fst ++ b.call?.toList)
      (answered ++ signal.completes b.call?) outcome := by
  obtain ⟨rfl, rfl, _⟩ := serves.of_backup
  cases ends with
  | unpreserved stage =>
      simp only [Operation.CameBy, stage] at h
      exact .uncommanded rfl (by simp [h, call?, stage])
  | refused stage =>
      simp only [Operation.CameBy, stage] at h
      obtain ⟨volume, rfl⟩ := h
      exact .uncommanded (Failure.phase_ofControlPlane _) (by simp [call?, stage])
  | failed stage advance =>
      simp only [Operation.CameBy, stage] at h
      simp only [call?, stage]
      exact h.failed advance
  | timedOut stage advance =>
      simp only [Operation.CameBy, stage] at h
      simp only [call?, stage]
      exact h.timedOut advance _
  | unconfirmed stage advance status =>
      simp only [Operation.CameBy, stage] at h
      simp only [call?, stage]
      exact h.settled advance rfl (by simp [status])
  | confirmed stage advance status =>
      simp only [Operation.CameBy, stage] at h
      simp only [call?, stage]
      exact h.settled advance (by rw [status]; rfl) (by simp [status])

/-- How a restore ends. -/
theorem Restore.account_of_ends {t : Restore}
    (h : Operation.CameBy settings order answered (.restore t))
    (serves : Operation.Serves settings order (.restore t)) (ends : t.Ends r signal r' outcome) :
    Account settings order r (answered.map Prod.fst ++ t.call?.toList)
      (answered ++ signal.completes t.call?) outcome := by
  obtain ⟨snapshotId, kind, rfl, rfl, _⟩ := serves.of_restore
  cases ends with
  | rejected stage target =>
      obtain ⟨rfl, cause, rfl, _⟩ := target_ends target
      simp only [Operation.CameBy, stage] at h
      simp only [h, call?, stage]
      exact .unsuited rfl target
  | unprovided stage =>
      simp only [Operation.CameBy, stage] at h
      exact .uncommanded rfl (by simp [h, call?, stage])
  | refused stage =>
      simp only [Operation.CameBy, stage] at h
      obtain ⟨provided, _, rfl⟩ := h
      exact .uncommanded (Failure.phase_ofControlPlane _) (by simp [call?, stage])
  | failed stage advance =>
      simp only [Operation.CameBy, stage] at h
      simp only [call?, stage]
      exact h.failed advance
  | timedOut stage advance =>
      simp only [Operation.CameBy, stage] at h
      simp only [call?, stage]
      exact h.timedOut advance _
  | unconfirmed stage advance status =>
      simp only [Operation.CameBy, stage] at h
      simp only [call?, stage]
      exact h.settled advance rfl (by simp [status])
  | confirmed stage advance status =>
      simp only [Operation.CameBy, stage] at h
      simp only [call?, stage]
      exact h.settled advance (by rw [status]; rfl) (by simp [status])

/-- How a removal ends. -/
theorem Removal.account_of_ends {d : Removal}
    (h : Operation.CameBy settings order answered (.removal d))
    (serves : Operation.Serves settings order (.removal d)) (ends : d.Ends r signal r' outcome) :
    Account settings order r (answered.map Prod.fst ++ d.call?.toList)
      (answered ++ signal.completes d.call?) outcome := by
  obtain ⟨rfl, rfl⟩ := serves.of_removal
  cases ends with
  | incomplete stage field =>
      simp only [Operation.CameBy, stage] at h
      simp only [h, call?, stage]
      exact .unlocated rfl rfl
  | unlocated stage =>
      simp only [Operation.CameBy, stage] at h
      simp only [h, call?, stage]
      exact .unlocated rfl rfl
  | unretracted stage =>
      simp only [Operation.CameBy, stage] at h
      refine .uncommanded (Failure.phase_ofControlPlane _) ?_
      rcases h with rfl | ⟨found, rfl⟩ <;> simp [call?, stage]
  | erased stage =>
      simp only [Operation.CameBy, stage] at h
      simp only [call?, stage]
      exact .erased rfl h rfl
  | unerased stage =>
      simp only [Operation.CameBy, stage] at h
      simp only [call?, stage]
      exact .unerased rfl h rfl

end

/-- **Ending.**  The account of an operation that ends is that of its stage, with the call
that it has waited for and the answer to it, if one has come. -/
theorem Operation.CameBy.account {settings : Settings} {order : Order}
    {answered : List Answered} {r r' : Registry} {op : Operation} {signal : Signal}
    {outcome : Outcome} (h : op.CameBy settings order answered)
    (serves : op.Serves settings order) (resume : op.resume r signal = some (.ends r' outcome)) :
    Account settings order r (answered.map Prod.fst ++ op.call?.toList)
      (answered ++ signal.completes op.call?) outcome := by
  cases op with
  | backup b =>
      have hp := Progress.some_ends_of_map resume
      exact Backup.account_of_ends h serves (Backup.ends_of_resume hp)
  | restore t =>
      have hp := Progress.some_ends_of_map resume
      exact Restore.account_of_ends h serves (Restore.ends_of_resume hp)
  | removal d =>
      have hp := Progress.some_ends_of_map resume
      exact Removal.account_of_ends h serves (Removal.ends_of_resume hp)

/-! ## What an outcome tells -/

/-- What the phase of a failure tells of the calls that were made, and of the answers to
them. -/
def Failure.Tells (settings : Settings) (order : Order) (noted : Registry) (calls : List Call)
    (answered : List Answered) (cause : Failure) : Prop :=
  match cause.phase with
  | .validation =>
      (calls = [] ∧ Operation.start noted settings order = .ends noted (.error cause)) ∨
        (∃ snapshotId kind volumeId backupName, order = .restore snapshotId kind ∧
          calls = [.provision volumeId backupName] ∧
          ((∃ field, cause = .insufficientMetadata field) ∨
            ∃ name, cause = .operationInProgress name)) ∨
        ∃ snapshotId volumeId, order = .removal snapshotId ∧
          calls = [.claimNamespace volumeId]
  | .command => ∀ action object, .move action object ∉ calls
  | .transfer =>
      ∃ before job action object, SetsOut settings order before job action object ∧
        calls = before.map Prod.fst ++ [.move action object] ∧
        ((cause = .transferFailed ⟨action, object⟩ ∧
            answered = before ++ [(.move action object, .moved false)]) ∨
          (∃ volumeId, cause = .timeout volumeId settings.operationTimeout) ∧
            (answered = before ∨ answered = before ++ [(.move action object, .moved true)]))
  | .confirmation =>
      ∃ before job action object, SetsOut settings order before job action object ∧
        calls = before.map Prod.fst ++ [.move action object] ∧
        answered = before ++ [(.move action object, .moved true)] ∧
        Outcome.status? (.error cause) = some (noted.statusOf job) ∧
        noted.statusOf job ≠ .done
  | .cleanup =>
      ∃ snapshotId s before object, order = .removal snapshotId ∧ Withdraws s before ∧
        object = settings.namer.objectName s.volumeId s.backupName ∧
        calls = before.map Prod.fst ++ [.move .delete object] ∧
        answered = before ++ [(.move .delete object, .moved false)]

/-- What a success tells: all calls were answered well, one after another. -/
def Success.Tells (settings : Settings) (order : Order) (noted : Registry) (calls : List Call)
    (answered : List Answered) (success : Success) : Prop :=
  (∃ before job action object, SetsOut settings order before job action object ∧
    calls = before.map Prod.fst ++ [.move action object] ∧
    answered = before ++ [(.move action object, .moved true)] ∧
    noted.statusOf job = .done ∧ success ≠ .deleted) ∨
  ∃ snapshotId s before object, order = .removal snapshotId ∧ Withdraws s before ∧
    object = settings.namer.objectName s.volumeId s.backupName ∧
    calls = before.map Prod.fst ++ [.move .delete object] ∧
    answered = before ++ [(.move .delete object, .moved true)] ∧ success = .deleted

namespace Account

variable {settings : Settings} {order : Order} {noted : Registry} {calls : List Call}
  {answered : List Answered}

/-- The phase of a failure tells how far the operation has got. -/
theorem tells {cause : Failure} (h : Account settings order noted calls answered (.error cause)) :
    cause.Tells settings order noted calls answered := by
  cases h with
  | refused start =>
      obtain ⟨_, _, heq, hphase⟩ := Operation.start_ends start
      cases heq
      rw [Failure.Tells, hphase]
      exact .inl ⟨rfl, start⟩
  | unsuited restores target =>
      obtain ⟨_, _, heq, hcause⟩ := Restore.target_refuses target
      cases heq
      rcases hcause with ⟨field, rfl⟩ | ⟨name, rfl⟩ | rfl
      · exact .inr (.inl ⟨_, _, _, _, restores, rfl, .inl ⟨field, rfl⟩⟩)
      · exact .inr (.inl ⟨_, _, _, _, restores, rfl, .inr ⟨name, rfl⟩⟩)
      · simp [Failure.Tells, Failure.phase]
  | unlocated removes unchecked =>
      rw [Failure.Tells, unchecked]
      exact .inr (.inr ⟨_, _, removes, rfl⟩)
  | uncommanded failed still =>
      rw [Failure.Tells, failed]
      exact still
  | unmoved out => exact ⟨_, _, _, _, out, rfl, .inl ⟨rfl, rfl⟩⟩
  | timedOut out early =>
      refine ⟨_, _, _, _, out, rfl, .inr ⟨⟨_, rfl⟩, ?_⟩⟩
      rcases early with rfl | rfl
      · exact .inl (List.append_nil _)
      · exact .inr rfl
  | decided out status confirms =>
      have hphase : cause.phase = .confirmation := by
        apply Decidable.byContradiction
        intro hother
        cases (Outcome.status?_error hother).symm.trans status
      rw [Failure.Tells, hphase]
      refine ⟨_, _, _, _, out, rfl, rfl, status, fun hdone => ?_⟩
      obtain ⟨success, heq⟩ := confirms.mpr hdone
      cases heq
  | unerased removes withdraws names => exact ⟨_, _, _, _, removes, withdraws, names, rfl, rfl⟩

/-- A restore that was refused as it was ordered lacks nothing and found nobody at work. -/
theorem start_restore_refuses {r r' : Registry} {snapshotId kind : String} {cause : Failure}
    (h : Operation.start r settings (.restore snapshotId kind) = .ends r' (.error cause)) :
    ¬ ((∃ field, cause = .insufficientMetadata field) ∨
      ∃ name, cause = .operationInProgress name) := by
  rcases Restore.start_refuses (Progress.ends_of_map h) with rfl | ⟨_, rfl⟩ <;> simp

/-- Before a check fails, at most the directory was called, and for a fresh volume exactly
if a restore was refused for what the volume lacks or for who is at work on it. -/
theorem of_validation {cause : Failure}
    (h : Account settings order noted calls answered (.error cause))
    (hphase : cause.phase = .validation) :
    (∀ call ∈ calls, (∃ volumeId, call = .claimNamespace volumeId) ∨
      ∃ volumeId backupName, call = .provision volumeId backupName) ∧
    ((∃ volumeId backupName, .provision volumeId backupName ∈ calls) ↔
      (∃ snapshotId kind, order = .restore snapshotId kind) ∧
        ((∃ field, cause = .insufficientMetadata field) ∨
          ∃ name, cause = .operationInProgress name)) := by
  have htells := h.tells
  rw [Failure.Tells, hphase] at htells
  rcases htells with ⟨rfl, hstart⟩ | ⟨snapshotId, kind, volumeId, backupName, rfl, rfl, hcause⟩ |
    ⟨snapshotId, volumeId, rfl, rfl⟩
  · refine ⟨by simp, by simp, ?_⟩
    rintro ⟨⟨snapshotId, kind, rfl⟩, hcause⟩
    exact absurd hcause (start_restore_refuses hstart)
  · refine ⟨by simp, fun _ => ⟨⟨_, _, rfl⟩, hcause⟩, fun _ => ?_⟩
    exact ⟨volumeId, backupName, List.mem_singleton_self _⟩
  · exact ⟨by simp, by simp, by simp⟩

/-- A success tells that the operation has got all the way. -/
theorem tells_ok {success : Success}
    (h : Account settings order noted calls answered (.ok success)) :
    success.Tells settings order noted calls answered := by
  cases h with
  | decided out status confirms =>
      refine .inl ⟨_, _, _, _, out, rfl, rfl, confirms.mp ⟨success, rfl⟩, ?_⟩
      rintro rfl
      cases status
  | erased removes withdraws names =>
      exact .inr ⟨_, _, _, _, removes, withdraws, names, rfl, rfl, rfl⟩

end Account

/-! ## Engaging -/

/-- What a transfer is to move has been called for. -/
theorem Confirmation.CameBy.calls {settings : Settings} {order : Order}
    {answered : List Answered} {c : Confirmation} (h : c.CameBy settings order answered) :
    .move c.action c.object ∈ answered.map Prod.fst ++ c.call?.toList ∧
      (Call.move c.action c.object).engages := by
  obtain ⟨before, hout, hanswered⟩ := h
  refine ⟨?_, bne_iff_ne.mpr hout.action_ne⟩
  by_cases hstage : c.stage = .transferring
  · simp [c.call?_eq, hstage]
  · rw [hanswered, if_neg hstage]
    simp

namespace Operation.CameBy

variable {settings : Settings} {order : Order} {answered : List Answered} {op : Operation}

/-- What was answered to an operation with a transfer is what its transfer stands for. -/
theorem confirming {c : Confirmation} (h : op.CameBy settings order answered)
    (hc : op.confirmation? = some c) : c.CameBy settings order answered := by
  rcases of_confirmation? hc with ⟨b, rfl, hstage⟩ | ⟨t, target, rfl, hstage⟩
  · simpa only [Operation.CameBy, hstage] using h
  · simpa only [Operation.CameBy, hstage] using h

/-- Whoever has a transfer has called for it. -/
theorem moved {c : Confirmation} (h : op.CameBy settings order answered)
    (hc : op.confirmation? = some c) :
    .move c.action c.object ∈ answered.map Prod.fst ++ op.call?.toList ∧
      (Call.move c.action c.object).engages := by
  rw [call?_of_confirmation hc]
  exact (h.confirming hc).calls

/-- Whoever holds a marker has made a call that says so. -/
theorem engaged {name : String} (h : op.CameBy settings order answered)
    (hmarker : op.marker? = some name) :
    ∃ call ∈ answered.map Prod.fst ++ op.call?.toList, call.engages := by
  cases hc : op.confirmation? with
  | some c => exact ⟨_, h.moved hc⟩
  | none =>
      cases op with
      | backup b =>
          cases hstage : b.stage with
          | preserving volume =>
              exact ⟨.preserveClaim volume, by simp [call?, Backup.call?, hstage], rfl⟩
          | ordering =>
              exact ⟨.createBackup b.request, by simp [call?, Backup.call?, hstage], rfl⟩
          | confirming c => simp [confirmation?, hstage] at hc
      | restore t =>
          cases hstage : t.stage with
          | provisioning => simp [marker?, hstage] at hmarker
          | ordering target =>
              refine ⟨.createRestore (t.request target), ?_, rfl⟩
              simp [call?, Restore.call?, hstage]
          | confirming target c => simp [confirmation?, hstage] at hc
      | removal d => cases hmarker

end Operation.CameBy

end SnapshotEngine
