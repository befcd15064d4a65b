import SnapshotEngine.Operation
import SnapshotEngine.Proofs.Operation.Backup
import SnapshotEngine.Proofs.Operation.Confirmation
import SnapshotEngine.Proofs.Operation.Removal
import SnapshotEngine.Proofs.Operation.Restore

/-!
# What one step of an operation does

An operation changes the registry at three places only.  A backup does so as it
starts, a restore when it takes the volume that was provided: both take the
marker of a volume there, for the job that they are about to order.  And an
operation that ends well keeps a snapshot or forgets one.  Every other step
leaves the registry as it is.

* `start_waits`, `start_ends` — how an operation starts;
* `goesOn_of_resume`, `ends_of_resume` — how it goes on, and how it ends;
* `serves_of_resume`, `moves_of_resume` — what of its order it never forgets.
-/

namespace SnapshotEngine

/-- The job that the control plane is to make of a call. -/
def Call.job? : Call → Option JobHandle
  | .createBackup request => some request.job
  | .createRestore request => some request.job
  | _ => none

/-- The status that an outcome was decided by, if it was decided by one. -/
def Outcome.status? : Outcome → Option JobStatus
  | .ok (.backedUp _) => some .done
  | .ok (.restored _) => some .done
  | .ok .deleted => none
  | .error (.backupNotConfirmed _ status _) => some status
  | .error (.restoreNotConfirmed _ status) => some status
  | .error _ => none

/-- A failure in any other phase was not decided by a status. -/
theorem Outcome.status?_error {cause : Failure} (h : cause.phase ≠ .confirmation) :
    Outcome.status? (.error cause) = none := by
  cases cause <;> first | rfl | exact absurd rfl h

namespace Operation

/-- The job that an operation is to order, from the time on at which it holds
the marker of a volume. -/
def job? : Operation → Option JobHandle
  | .backup b => some b.request.job
  | .restore t =>
      match t.stage with
      | .provisioning => none
      | .ordering target | .confirming target _ => some (t.request target).job
  | .removal _ => none

/-- The data that an operation moves for its job. -/
def transfer? : Operation → Option (TransferAction × String)
  | .backup b => some (.upload, b.object)
  | .restore t => some (.download, t.object)
  | .removal _ => none

/-- What an operation has of the settings and the order that it was started
with. -/
def Serves (settings : Settings) : Order → Operation → Prop
  | .backup volumeId backupName, .backup b =>
      b.settings = settings ∧ b.volumeId = volumeId ∧ b.backupName = backupName ∧
        SnapshotId.encode volumeId backupName = .ok b.snapshotId
  | .restore snapshotId _, .restore t =>
      t.settings = settings ∧ SnapshotId.decode snapshotId = .ok (t.volumeId, t.backupName)
  | .removal snapshotId, .removal d => d.settings = settings ∧ d.snapshotId = snapshotId
  | _, _ => False

namespace Serves

variable {settings : Settings} {order : Order}

/-- A backup serves the order to back its volume up. -/
theorem of_backup {b : Backup} (h : Serves settings order (.backup b)) :
    order = .backup b.volumeId b.backupName ∧ b.settings = settings ∧
      SnapshotId.encode b.volumeId b.backupName = .ok b.snapshotId := by
  cases order with
  | backup volumeId backupName =>
      obtain ⟨hsettings, rfl, rfl, hid⟩ := h
      exact ⟨rfl, hsettings, hid⟩
  | restore snapshotId kind => exact h.elim
  | removal snapshotId => exact h.elim

/-- A restore serves an order to restore what its identifier names. -/
theorem of_restore {t : Restore} (h : Serves settings order (.restore t)) :
    ∃ snapshotId kind, order = .restore snapshotId kind ∧ t.settings = settings ∧
      SnapshotId.decode snapshotId = .ok (t.volumeId, t.backupName) := by
  cases order with
  | restore snapshotId kind => exact ⟨snapshotId, kind, rfl, h⟩
  | backup volumeId backupName => exact h.elim
  | removal snapshotId => exact h.elim

/-- A removal serves the order to delete its snapshot. -/
theorem of_removal {d : Removal} (h : Serves settings order (.removal d)) :
    order = .removal d.snapshotId ∧ d.settings = settings := by
  cases order with
  | removal snapshotId =>
      obtain ⟨hsettings, rfl⟩ := h
      exact ⟨rfl, hsettings⟩
  | backup volumeId backupName => exact h.elim
  | restore snapshotId kind => exact h.elim

/-- An order to back a volume up is served by a backup. -/
theorem by_backup {volumeId backupName : String} {op : Operation}
    (h : op.Serves settings (.backup volumeId backupName)) :
    ∃ b, op = .backup b ∧ b.settings = settings ∧ b.volumeId = volumeId ∧
      b.backupName = backupName := by
  cases op with
  | backup b => exact ⟨b, rfl, h.1, h.2.1, h.2.2.1⟩
  | restore t => exact h.elim
  | removal d => exact h.elim

/-- An order to restore is served by a restore of what the identifier names. -/
theorem by_restore {snapshotId kind : String} {op : Operation}
    (h : op.Serves settings (.restore snapshotId kind)) :
    ∃ t, op = .restore t ∧ t.settings = settings ∧
      SnapshotId.decode snapshotId = .ok (t.volumeId, t.backupName) := by
  cases op with
  | restore t => exact ⟨t, rfl, h⟩
  | backup b => exact h.elim
  | removal d => exact h.elim

/-- An order to delete a snapshot is served by a removal. -/
theorem by_removal {snapshotId : String} {op : Operation}
    (h : op.Serves settings (.removal snapshotId)) :
    ∃ d, op = .removal d ∧ d.settings = settings ∧ d.snapshotId = snapshotId := by
  cases op with
  | removal d => exact ⟨d, rfl, h⟩
  | backup b => exact h.elim
  | restore t => exact h.elim

end Serves

/-- A transfer in progress moves the data of its operation. -/
def Moves (op : Operation) : Prop :=
  ∀ c, op.confirmation? = some c → op.transfer? = some (c.action, c.object)

/-- The marker that is held is that of the volume of the job. -/
theorem marker?_eq (op : Operation) : op.marker? = op.job?.map (·.volumeId) := by
  cases op with
  | backup b => rfl
  | restore t =>
      simp only [marker?, job?]
      cases t.stage <;> rfl
  | removal d => rfl

/-- An operation without a job has no transfer. -/
theorem confirmation?_of_free {op : Operation} (h : op.job? = none) :
    op.confirmation? = none := by
  cases op with
  | backup b => cases h
  | restore t =>
      cases hstage : t.stage with
      | provisioning => simp only [confirmation?, hstage]
      | ordering target => simp only [confirmation?, hstage]
      | confirming target c => simp [job?, hstage] at h
  | removal d => rfl

/-- A transfer is that of a backup or of a restore. -/
theorem of_confirmation? {op : Operation} {c : Confirmation} (h : op.confirmation? = some c) :
    (∃ b, op = .backup b ∧ b.stage = .confirming c) ∨
      ∃ t target, op = .restore t ∧ t.stage = .confirming target c := by
  cases op with
  | backup b =>
      cases hb : b.stage with
      | confirming c' =>
          simp only [confirmation?, hb, Option.some.injEq] at h
          subst h
          exact .inl ⟨b, rfl, hb⟩
      | _ => simp [confirmation?, hb] at h
  | restore t =>
      cases ht : t.stage with
      | confirming target c' =>
          simp only [confirmation?, ht, Option.some.injEq] at h
          subst h
          exact .inr ⟨t, target, rfl, ht⟩
      | _ => simp [confirmation?, ht] at h
  | removal d => cases h

/-- An operation with a transfer waits for what the transfer waits for. -/
theorem call?_of_confirmation {op : Operation} {c : Confirmation}
    (h : op.confirmation? = some c) : op.call? = c.call? := by
  rcases of_confirmation? h with ⟨b, rfl, hstage⟩ | ⟨t, target, rfl, hstage⟩
  · simp only [call?, Backup.call?, hstage]
  · simp only [call?, Restore.call?, hstage]

/-- While the data is being moved, that is what an operation waits for. -/
theorem call?_of_transferring {op : Operation} {c : Confirmation}
    (h : op.confirmation? = some c) (hstage : c.stage = .transferring) :
    op.call? = some (.move c.action c.object) := by
  rw [call?_of_confirmation h, c.call?_eq, if_pos hstage]

/-- What an operation has moved is the data of its transfer, or a removal has it
deleted. -/
theorem of_call?_move {op : Operation} {action : TransferAction} {object : String}
    (h : op.call? = some (.move action object)) :
    (∃ c, op.confirmation? = some c ∧ c.stage = .transferring ∧ c.action = action ∧
        c.object = object) ∨
      ∃ d s, op = .removal d ∧ d.stage = .erasing s ∧ action = .delete ∧ object = d.object s := by
  cases op with
  | backup b =>
      change b.call? = _ at h
      unfold Backup.call? at h
      split at h
      · cases h
      · cases h
      · rename_i c hstage
        obtain ⟨hmoving, hcall⟩ := Confirmation.of_call? h
        cases hcall
        exact .inl ⟨c, by simp only [confirmation?, hstage], hmoving, rfl, rfl⟩
  | restore t =>
      change t.call? = _ at h
      unfold Restore.call? at h
      split at h
      · cases h
      · cases h
      · rename_i target c hstage
        obtain ⟨hmoving, hcall⟩ := Confirmation.of_call? h
        cases hcall
        exact .inl ⟨c, by simp only [confirmation?, hstage], hmoving, rfl, rfl⟩
  | removal d =>
      change d.call? = _ at h
      unfold Removal.call? at h
      split at h
      · cases h
      · cases h
      · rename_i s hstage
        cases h
        exact .inr ⟨d, s, rfl, hstage, rfl, rfl⟩

/-- Only a restore asks for a fresh volume, and it does so first; and only a restore orders
a job to fill one. -/
theorem of_call?_restore {op : Operation} {call : Call} (h : op.call? = some call)
    (hcall : (∃ volumeId backupName, call = .provision volumeId backupName) ∨
      ∃ request, call = .createRestore request) :
    ∃ t, op = .restore t ∧
      ((t.stage = .provisioning ∧ call = .provision t.volumeId t.backupName) ∨
        ∃ target, t.stage = .ordering target ∧ call = .createRestore (t.request target)) := by
  have hnever : ∀ c : Confirmation, c.call? ≠ some call := by
    intro c hc
    rw [(Confirmation.of_call? hc).2] at hcall
    rcases hcall with ⟨_, _, hcall⟩ | ⟨_, hcall⟩ <;> cases hcall
  cases op with
  | backup b =>
      change b.call? = _ at h
      unfold Backup.call? at h
      split at h
      · cases h
        rcases hcall with ⟨_, _, hcall⟩ | ⟨_, hcall⟩ <;> cases hcall
      · cases h
        rcases hcall with ⟨_, _, hcall⟩ | ⟨_, hcall⟩ <;> cases hcall
      · exact absurd h (hnever _)
  | restore t =>
      change t.call? = _ at h
      unfold Restore.call? at h
      split at h
      · rename_i hstage
        cases h
        exact ⟨t, rfl, .inl ⟨hstage, rfl⟩⟩
      · rename_i target hstage
        cases h
        exact ⟨t, rfl, .inr ⟨target, hstage, rfl⟩⟩
      · exact absurd h (hnever _)
  | removal d =>
      change d.call? = _ at h
      unfold Removal.call? at h
      split at h <;> cases h <;> rcases hcall with ⟨_, _, hcall⟩ | ⟨_, hcall⟩ <;> cases hcall

/-- Whoever asks for a fresh volume is a restore that has just started. -/
theorem of_call?_provision {op : Operation} {volumeId backupName : String}
    (h : op.call? = some (.provision volumeId backupName)) :
    ∃ t, op = .restore t ∧ t.stage = .provisioning ∧ t.volumeId = volumeId ∧
      t.backupName = backupName := by
  obtain ⟨t, rfl, ⟨hstage, hcall⟩ | ⟨_, _, hcall⟩⟩ := of_call?_restore h (.inl ⟨_, _, rfl⟩)
  · cases hcall
    exact ⟨t, rfl, hstage, rfl, rfl⟩
  · cases hcall

/-- Whoever orders a job to fill a volume is a restore that was given the volume. -/
theorem of_call?_createRestore {op : Operation} {request : RestoreRequest}
    (h : op.call? = some (.createRestore request)) :
    ∃ t target, op = .restore t ∧ t.stage = .ordering target ∧ request = t.request target := by
  obtain ⟨t, rfl, ⟨_, hcall⟩ | ⟨target, hstage, hcall⟩⟩ := of_call?_restore h (.inr ⟨_, rfl⟩)
  · cases hcall
  · cases hcall
    exact ⟨t, target, rfl, hstage, rfl⟩

/-- Whoever orders a job to back a volume up is a backup that has had the claim kept. -/
theorem of_call?_createBackup {op : Operation} {request : BackupRequest}
    (h : op.call? = some (.createBackup request)) :
    ∃ b, op = .backup b ∧ b.stage = .ordering ∧ request = b.request := by
  cases op with
  | backup b =>
      change b.call? = _ at h
      unfold Backup.call? at h
      split at h
      · cases h
      · rename_i hstage
        cases h
        exact ⟨b, rfl, hstage, rfl⟩
      · cases (Confirmation.of_call? h).2
  | restore t =>
      change t.call? = _ at h
      unfold Restore.call? at h
      split at h
      · cases h
      · cases h
      · cases (Confirmation.of_call? h).2
  | removal d =>
      change d.call? = _ at h
      unfold Removal.call? at h
      split at h <;> cases h

/-- Whoever has a backup deleted is a removal that has its snapshot in hand. -/
theorem of_call?_deleteBackup {op : Operation} {volumeId backupName claimNamespace : String}
    (h : op.call? = some (.deleteBackup volumeId backupName claimNamespace)) :
    ∃ d, op = .removal d ∧ d.stage = .retracting ⟨volumeId, backupName, claimNamespace⟩ := by
  cases op with
  | backup b =>
      change b.call? = _ at h
      unfold Backup.call? at h
      split at h
      · cases h
      · cases h
      · cases (Confirmation.of_call? h).2
  | restore t =>
      change t.call? = _ at h
      unfold Restore.call? at h
      split at h
      · cases h
      · cases h
      · cases (Confirmation.of_call? h).2
  | removal d =>
      change d.call? = _ at h
      unfold Removal.call? at h
      split at h
      · cases h
      · rename_i s hstage
        cases h
        exact ⟨d, rfl, hstage⟩
      · cases h

/-- **Starting.**  An operation that waits after its start serves its order and
has no transfer yet; either it has no job and the registry is as it was, or it
has taken the marker for its job. -/
theorem start_waits {r r' : Registry} {settings : Settings} {order : Order} {op : Operation}
    (h : start r settings order = .waits r' op) :
    op.Serves settings order ∧ op.confirmation? = none ∧
      ((op.job? = none ∧ r' = r) ∨ ∃ job, op.job? = some job ∧ r.Takes r' job) := by
  cases order with
  | backup volumeId backupName =>
      obtain ⟨b, hstart, rfl⟩ := Progress.waits_of_map h
      obtain ⟨htakes, hsettings, hvolume, hname, hid, v, hstage⟩ := Backup.start_waits hstart
      refine ⟨⟨hsettings, hvolume, hname, hid⟩, ?_, .inr ⟨_, rfl, htakes⟩⟩
      simp only [confirmation?, hstage]
  | restore snapshotId kind =>
      obtain ⟨t, hstart, rfl⟩ := Progress.waits_of_map h
      obtain ⟨rfl, hsettings, hstage, hdecode⟩ := Restore.start_waits hstart
      refine ⟨⟨hsettings, hdecode⟩, ?_, .inl ⟨?_, rfl⟩⟩
      · simp only [confirmation?, hstage]
      · simp only [job?, hstage]
  | removal snapshotId =>
      obtain ⟨d, hstart, rfl⟩ := Progress.waits_of_map h
      obtain ⟨rfl, hsettings, hid, _⟩ := Removal.start_waits hstart
      exact ⟨⟨hsettings, hid⟩, rfl, .inl ⟨rfl, rfl⟩⟩

/-- An operation that ends as it starts has failed a check, and leaves the
registry as it was. -/
theorem start_ends {r r' : Registry} {settings : Settings} {order : Order} {outcome : Outcome}
    (h : start r settings order = .ends r' outcome) :
    r' = r ∧ ∃ cause, outcome = .error cause ∧ cause.phase = .validation := by
  cases order with
  | backup volumeId backupName =>
      exact Backup.start_ends (Progress.ends_of_map h)
  | restore snapshotId kind =>
      exact Restore.start_ends (Progress.ends_of_map h)
  | removal snapshotId =>
      exact Removal.start_ends (Progress.ends_of_map h)

/-- The ways in which an operation waits again. -/
inductive GoesOn (r : Registry) (op : Operation) : Signal → Registry → Operation → Prop where
  /-- It has come nearer to its transfer. -/
  | approached {signal : Signal} {next : Operation} (before : op.confirmation? = none)
      (after : next.confirmation? = none) (kept : next.job? = op.job?) :
      GoesOn r op signal r next
  /-- It has taken the marker of a volume that was not known before. -/
  | took {signal : Signal} {r' : Registry} {next : Operation} {job : JobHandle}
      (free : op.job? = none) (after : next.confirmation? = none) (holds : next.job? = some job)
      (unknown : r.volume? job.volumeId = none) (takes : r.Takes r' job) :
      GoesOn r op signal r' next
  /-- Its job was accepted, and the transfer starts. -/
  | accepted {call : Call} {job : JobHandle} {next : Operation} {c : Confirmation}
      (before : op.confirmation? = none) (waited : op.call? = some call)
      (ordered : call.job? = op.job?) (kept : next.job? = op.job?)
      (after : next.confirmation? = some c) (handle : c.job = job)
      (stage : c.stage = .transferring) :
      GoesOn r op (.answered (.accepted (.ok job))) r next
  /-- Its transfer has gone on. -/
  | continued {signal : Signal} {next : Operation} {c c' : Confirmation}
      (before : op.confirmation? = some c) (after : next.confirmation? = some c')
      (advance : c.advance signal = some (.continues c')) (kept : next.job? = op.job?) :
      GoesOn r op signal r next

/-- The ways in which an operation ends. -/
inductive Ends (r : Registry) : Operation → Signal → Registry → Outcome → Prop where
  /-- It has failed before anything was decided. -/
  | failed {op : Operation} {signal : Signal} {cause : Failure}
      (undecided : cause.phase ≠ .confirmation) : Ends r op signal r (.error cause)
  /-- What was noted of its job does not confirm it. -/
  | unconfirmed {op : Operation} {signal : Signal} {c : Confirmation} {cause : Failure}
      (transfer : op.confirmation? = some c) (advance : c.advance signal = some .settled)
      (status : r.statusOf c.job ≠ .done)
      (decided : Outcome.status? (.error cause) = some (r.statusOf c.job)) :
      Ends r op signal r (.error cause)
  | backedUp {b : Backup} {signal : Signal} {c : Confirmation} (stage : b.stage = .confirming c)
      (advance : c.advance signal = some .settled) (status : r.statusOf c.job = .done) :
      Ends r (.backup b) signal (r.insertSnapshot b.snapshotId b.snapshot)
        (.ok (.backedUp b.snapshotId))
  | restored {t : Restore} {signal : Signal} {target : Volume} {c : Confirmation}
      (stage : t.stage = .confirming target c) (advance : c.advance signal = some .settled)
      (status : r.statusOf c.job = .done) :
      Ends r (.restore t) signal r (.ok (.restored target.name))
  | deleted {d : Removal} {s : Snapshot} (stage : d.stage = .erasing s) :
      Ends r (.removal d) (.answered (.moved true)) (r.removeSnapshot d.snapshotId) (.ok .deleted)

/-- **Going on.**  An operation that waits again has gone on in one of four
ways. -/
theorem goesOn_of_resume {r r' : Registry} {op next : Operation} {signal : Signal}
    (h : op.resume r signal = some (.waits r' next)) : op.GoesOn r signal r' next := by
  cases op with
  | backup b =>
      obtain ⟨_, hp, rfl⟩ := Progress.some_waits_of_map h
      obtain ⟨rfl, hgoes⟩ := Backup.goesOn_of_resume hp
      cases hgoes with
      | preserved stage => exact .approached (by simp [confirmation?, stage]) rfl rfl
      | accepted stage =>
          have hcall : call? (.backup b) = some (.createBackup b.request) := by
            simp only [call?, Backup.call?, stage]
          exact .accepted (by simp [confirmation?, stage]) hcall rfl rfl rfl rfl rfl
      | continued stage advance =>
          exact .continued (by simp only [confirmation?, stage]) rfl advance rfl
  | restore t =>
      obtain ⟨_, hp, rfl⟩ := Progress.some_waits_of_map h
      cases Restore.goesOn_of_resume hp with
      | provided stage target =>
          obtain ⟨hunknown, rfl, htakes⟩ := Restore.target_waits target
          exact .took (by simp [job?, stage]) rfl rfl hunknown htakes
      | accepted stage =>
          rename_i target job
          have hcall : call? (.restore t) = some (.createRestore (t.request target)) := by
            simp only [call?, Restore.call?, stage]
          exact .accepted (by simp [confirmation?, stage]) hcall
            (by simp [job?, stage, Call.job?]) (by simp [job?, stage, Restore.request]) rfl rfl rfl
      | continued stage advance =>
          exact .continued (by simp only [confirmation?, stage]) rfl advance
            (by simp [job?, stage, Restore.request])
  | removal d =>
      obtain ⟨_, hp, rfl⟩ := Progress.some_waits_of_map h
      obtain ⟨rfl, _⟩ := Removal.goesOn_of_resume hp
      exact .approached rfl rfl rfl

/-- **Ending.**  An operation that ends has failed, was not confirmed, or has
done what it was ordered to do. -/
theorem ends_of_resume {r r' : Registry} {op : Operation} {signal : Signal} {outcome : Outcome}
    (h : op.resume r signal = some (.ends r' outcome)) : Ends r op signal r' outcome := by
  cases op with
  | backup b =>
      have hp := Progress.some_ends_of_map h
      cases Backup.ends_of_resume hp with
      | refused stage => exact .failed (by simp [Failure.phase_ofControlPlane])
      | unpreserved stage | failed stage advance | timedOut stage advance =>
          exact .failed (by simp [Failure.phase])
      | unconfirmed stage advance status =>
          exact .unconfirmed (by simp only [confirmation?, stage]) advance status rfl
      | confirmed stage advance status => exact .backedUp stage advance status
  | restore t =>
      have hp := Progress.some_ends_of_map h
      cases Restore.ends_of_resume hp with
      | rejected stage target =>
          obtain ⟨rfl, cause, rfl, hphase | hphase⟩ := Restore.target_ends target
          · exact .failed (by simp [hphase])
          · exact .failed (by simp [hphase])
      | refused stage => exact .failed (by simp [Failure.phase_ofControlPlane])
      | unprovided stage | failed stage advance | timedOut stage advance =>
          exact .failed (by simp [Failure.phase])
      | unconfirmed stage advance status =>
          exact .unconfirmed (by simp only [confirmation?, stage]) advance status rfl
      | confirmed stage advance status => exact .restored stage advance status
  | removal d =>
      have hp := Progress.some_ends_of_map h
      cases Removal.ends_of_resume hp with
      | unretracted stage => exact .failed (by simp [Failure.phase_ofControlPlane])
      | incomplete stage field | unlocated stage | unerased stage =>
          exact .failed (by simp [Failure.phase])
      | erased stage => exact .deleted stage

/-- A status decides an outcome when the poller has stopped, and it is the one
that was noted of the job. -/
theorem Ends.status {r r' : Registry} {op : Operation} {signal : Signal} {outcome : Outcome}
    {status : JobStatus} (h : Ends r op signal r' outcome)
    (hstatus : Outcome.status? outcome = some status) :
    ∃ c, op.confirmation? = some c ∧ c.advance signal = some .settled ∧
      r.statusOf c.job = status := by
  cases h with
  | failed undecided =>
      rw [Outcome.status?_error undecided] at hstatus
      cases hstatus
  | unconfirmed transfer advance _ decided =>
      exact ⟨_, transfer, advance, Option.some.inj (decided.symm.trans hstatus)⟩
  | backedUp stage advance hdone =>
      refine ⟨_, by simp only [confirmation?, stage], advance, ?_⟩
      exact hdone.trans (Option.some.inj hstatus)
  | restored stage advance hdone =>
      refine ⟨_, by simp only [confirmation?, stage], advance, ?_⟩
      exact hdone.trans (Option.some.inj hstatus)
  | deleted stage => cases hstatus

/-- An operation that ends touches neither volumes nor markers. -/
theorem Ends.volumes_held {r r' : Registry} {op : Operation} {signal : Signal}
    {outcome : Outcome} (h : Ends r op signal r' outcome) :
    r'.volumes = r.volumes ∧ r'.held = r.held := by
  cases h <;> exact ⟨rfl, rfl⟩

/-- Of the orders only one for a backup is refused over a marker. -/
theorem backup_of_start_inProgress {r r' : Registry} {settings : Settings} {order : Order}
    {name : String}
    (h : start r settings order = .ends r' (.error (.operationInProgress name))) :
    ∃ volumeId backupName, order = .backup volumeId backupName ∧
      Backup.start r settings volumeId backupName =
        .ends r' (.error (.operationInProgress name)) := by
  cases order with
  | backup volumeId backupName =>
      exact ⟨volumeId, backupName, rfl, Progress.ends_of_map h⟩
  | restore snapshotId kind =>
      rcases Restore.start_refuses (Progress.ends_of_map h) with heq | ⟨_, heq⟩ <;> cases heq
  | removal snapshotId =>
      simp only [start, Removal.start, Removal.retract] at h
      split at h
      · split at h <;> cases h
      · split at h <;> cases h

/-- Of the operations in progress only a restore that was given a volume is refused
over a marker. -/
theorem restore_of_resume_inProgress {r r' : Registry} {op : Operation} {signal : Signal}
    {name : String}
    (h : op.resume r signal = some (.ends r' (.error (.operationInProgress name)))) :
    ∃ t provided, op = .restore t ∧ signal = .answered (.provisioned (.ok provided)) ∧
      t.stage = .provisioning ∧
      t.target r provided = .ends r' (.error (.operationInProgress name)) := by
  have hother : ∀ cause : ControlPlaneError,
      Failure.ofControlPlane cause ≠ .operationInProgress name := by
    intro cause
    cases cause <;> exact Failure.noConfusion
  cases op with
  | backup b =>
      have hp := Progress.some_ends_of_map h
      generalize houtcome : (Except.error (.operationInProgress name) : Outcome) = outcome at hp
      cases Backup.ends_of_resume hp with
      | refused stage => exact absurd (Except.error.inj houtcome).symm (hother _)
      | _ => cases houtcome
  | restore t =>
      have hp := Progress.some_ends_of_map h
      generalize houtcome : (Except.error (.operationInProgress name) : Outcome) = outcome at hp
      cases Restore.ends_of_resume hp with
      | rejected stage target => exact ⟨t, _, rfl, rfl, stage, houtcome ▸ target⟩
      | refused stage => exact absurd (Except.error.inj houtcome).symm (hother _)
      | _ => cases houtcome
  | removal d =>
      have hp := Progress.some_ends_of_map h
      generalize houtcome : (Except.error (.operationInProgress name) : Outcome) = outcome at hp
      cases Removal.ends_of_resume hp with
      | unretracted stage => exact absurd (Except.error.inj houtcome).symm (hother _)
      | _ => cases houtcome

/-- An operation that waits again serves the same order. -/
theorem serves_of_resume {r r' : Registry} {op next : Operation} {signal : Signal}
    {settings : Settings} {order : Order} (h : op.resume r signal = some (.waits r' next))
    (hserves : op.Serves settings order) : next.Serves settings order := by
  cases op with
  | backup b =>
      obtain ⟨_, hp, rfl⟩ := Progress.some_waits_of_map h
      obtain ⟨rfl, hgoes⟩ := Backup.goesOn_of_resume hp
      cases hgoes <;> cases order <;> exact hserves
  | restore t =>
      obtain ⟨_, hp, rfl⟩ := Progress.some_waits_of_map h
      cases Restore.goesOn_of_resume hp with
      | provided stage target =>
          obtain ⟨_, rfl, _⟩ := Restore.target_waits target
          cases order <;> exact hserves
      | accepted stage => cases order <;> exact hserves
      | continued stage advance => cases order <;> exact hserves
  | removal d =>
      obtain ⟨_, hp, rfl⟩ := Progress.some_waits_of_map h
      obtain ⟨rfl, hgoes⟩ := Removal.goesOn_of_resume hp
      cases hgoes <;> cases order <;> exact hserves

/-- A transfer that has just started moves the data of its operation, and one
that has gone on moves the same data as before. -/
theorem moves_of_resume {r r' : Registry} {op next : Operation} {signal : Signal}
    (h : op.resume r signal = some (.waits r' next)) (hmoves : op.Moves) : next.Moves := by
  intro c hc
  cases op with
  | backup b =>
      obtain ⟨_, hp, rfl⟩ := Progress.some_waits_of_map h
      obtain ⟨rfl, hgoes⟩ := Backup.goesOn_of_resume hp
      cases hgoes with
      | preserved stage => simp [confirmation?] at hc
      | accepted stage =>
          cases hc
          rfl
      | continued stage advance =>
          cases hc
          obtain ⟨_, haction, hobject⟩ := Confirmation.advance_continues advance
          rw [haction, hobject]
          exact hmoves _ (by simp only [confirmation?, stage])
  | restore t =>
      obtain ⟨_, hp, rfl⟩ := Progress.some_waits_of_map h
      cases Restore.goesOn_of_resume hp with
      | provided stage target =>
          obtain ⟨_, rfl, _⟩ := Restore.target_waits target
          simp [confirmation?] at hc
      | accepted stage =>
          cases hc
          rfl
      | continued stage advance =>
          cases hc
          obtain ⟨_, haction, hobject⟩ := Confirmation.advance_continues advance
          rw [haction, hobject]
          exact hmoves _ (by simp only [confirmation?, stage])
  | removal d =>
      obtain ⟨_, _, rfl⟩ := Progress.some_waits_of_map h
      cases hc

/-- A backup that waits again was a backup. -/
theorem backup_of_resume {r r' : Registry} {op : Operation} {b : Backup} {signal : Signal}
    (h : op.resume r signal = some (.waits r' (.backup b))) :
    ∃ b₀, op = .backup b₀ ∧ b₀.GoesOn signal b := by
  cases op <;> obtain ⟨_, hp, heq⟩ := Progress.some_waits_of_map h <;> cases heq
  exact ⟨_, rfl, (Backup.goesOn_of_resume hp).2⟩

/-- A restore that waits again was a restore. -/
theorem restore_of_resume {r r' : Registry} {op : Operation} {t : Restore} {signal : Signal}
    (h : op.resume r signal = some (.waits r' (.restore t))) :
    ∃ t₀, op = .restore t₀ ∧ t₀.GoesOn r signal r' t := by
  cases op <;> obtain ⟨_, hp, heq⟩ := Progress.some_waits_of_map h <;> cases heq
  exact ⟨_, rfl, Restore.goesOn_of_resume hp⟩

/-- A removal that waits again was a removal. -/
theorem removal_of_resume {r r' : Registry} {op : Operation} {d : Removal} {signal : Signal}
    (h : op.resume r signal = some (.waits r' (.removal d))) :
    ∃ d₀, op = .removal d₀ ∧ d₀.GoesOn signal d := by
  cases op <;> obtain ⟨_, hp, heq⟩ := Progress.some_waits_of_map h <;> cases heq
  exact ⟨_, rfl, (Removal.goesOn_of_resume hp).2⟩

/-- While an operation goes on, the registry stays as it is unless a restore takes the
volume that it was provided with. -/
theorem kept_or_provided_of_resume {r r' : Registry} {op next : Operation} {signal : Signal}
    (h : op.resume r signal = some (.waits r' next)) :
    r' = r ∨ ∃ t t' provided, op = .restore t ∧ next = .restore t' ∧ t.stage = .provisioning ∧
      signal = .answered (.provisioned (.ok provided)) ∧ t.target r provided = .waits r' t' := by
  cases op with
  | backup b =>
      obtain ⟨_, hp, rfl⟩ := Progress.some_waits_of_map h
      exact .inl (Backup.goesOn_of_resume hp).1
  | restore t =>
      obtain ⟨_, hp, rfl⟩ := Progress.some_waits_of_map h
      cases Restore.goesOn_of_resume hp with
      | provided stage target => exact .inr ⟨t, _, _, rfl, rfl, stage, rfl, target⟩
      | accepted stage => exact .inl rfl
      | continued stage advance => exact .inl rfl
  | removal d =>
      obtain ⟨_, hp, rfl⟩ := Progress.some_waits_of_map h
      exact .inl (Removal.goesOn_of_resume hp).1

/-- A backup that waits after its start was ordered as one. -/
theorem backup_of_start {r r' : Registry} {settings : Settings} {order : Order} {b : Backup}
    (h : start r settings order = .waits r' (.backup b)) :
    ∃ volumeId backupName, order = .backup volumeId backupName ∧
      Backup.start r settings volumeId backupName = .waits r' b := by
  obtain ⟨rfl, _⟩ := (start_waits h).1.of_backup
  obtain ⟨_, hstart, heq⟩ := Progress.waits_of_map h
  cases heq
  exact ⟨_, _, rfl, hstart⟩

/-- A restore that waits after its start was ordered as one. -/
theorem restore_of_start {r r' : Registry} {settings : Settings} {order : Order} {t : Restore}
    (h : start r settings order = .waits r' (.restore t)) :
    ∃ snapshotId kind, order = .restore snapshotId kind ∧
      Restore.start r settings snapshotId kind = .waits r' t := by
  obtain ⟨snapshotId, kind, rfl, _⟩ := (start_waits h).1.of_restore
  obtain ⟨_, hstart, heq⟩ := Progress.waits_of_map h
  cases heq
  exact ⟨snapshotId, kind, rfl, hstart⟩

/-- A removal that waits after its start was ordered as one. -/
theorem removal_of_start {r r' : Registry} {settings : Settings} {order : Order} {d : Removal}
    (h : start r settings order = .waits r' (.removal d)) :
    ∃ snapshotId, order = .removal snapshotId ∧
      Removal.start r settings snapshotId = .waits r' d := by
  obtain ⟨rfl, _⟩ := (start_waits h).1.of_removal
  obtain ⟨_, hstart, heq⟩ := Progress.waits_of_map h
  cases heq
  exact ⟨_, rfl, hstart⟩

end Operation

end SnapshotEngine
