import SnapshotEngine.Proofs.Operation.Step

/-!
# What an operation with a job reports

An operation whose job was accepted moves its data while the job is asked after, and
ends in one of three ways: the transfer fails, the time limit is reached, or what
was heard of the job decides.  What it then reports depends on nothing else.

* `outcome?` — the report;
* `exists_outcome?_eq_ok_iff` — success is to have heard that the job is done;
* `resume_accepted` — how such an operation sets out;
* `confirm`, `resume_confirm_continues`, `resume_confirm_ends` — how it goes on, and how
  it ends.
-/

namespace SnapshotEngine

/-- How a transfer and its confirmation come out. -/
inductive Resolution where
  /-- The transfer failed. -/
  | failed
  /-- The time limit was reached. -/
  | timedOut
  /-- The data has moved, and this is what was heard of the job. -/
  | heard (status : JobStatus)
deriving DecidableEq, Repr, Inhabited

/-- What comes out of a transfer, given the status that is noted of its job. -/
def Verdict.resolution? (noted : JobStatus) : Verdict → Option Resolution
  | .continues _ => none
  | .settled => some (.heard noted)
  | .failed _ => some .failed
  | .timedOut => some .timedOut

namespace Operation

/-- What an operation that has a job reports. -/
def outcome? : Operation → Resolution → Option Outcome
  | .backup b, .failed => some (.error (.transferFailed ⟨.upload, b.object⟩))
  | .backup b, .timedOut => some (.error (.timeout b.volumeId b.settings.operationTimeout))
  | .backup b, .heard status =>
      some (if status = .done then .ok (.backedUp b.snapshotId)
        else .error (.backupNotConfirmed b.volumeId status b.object))
  | .restore t, .failed => some (.error (.transferFailed ⟨.download, t.object⟩))
  | .restore t, .timedOut =>
      (marker? (.restore t)).map fun target =>
        .error (.timeout target t.settings.operationTimeout)
  | .restore t, .heard status =>
      (marker? (.restore t)).map fun target =>
        if status = .done then .ok (.restored target)
        else .error (.restoreNotConfirmed target status)
  | .removal _, _ => none

/-- An operation succeeds exactly if it has heard that its job is done. -/
theorem exists_outcome?_eq_ok_iff {op : Operation} {job : JobHandle} (h : op.job? = some job)
    (resolution : Resolution) :
    (∃ success, op.outcome? resolution = some (.ok success)) ↔ resolution = .heard .done := by
  have hmarker : op.marker? = some job.volumeId := by
    rw [marker?_eq, h]
    rfl
  cases op with
  | removal d => cases h
  | backup b =>
      cases resolution with
      | failed => simp [outcome?]
      | timedOut => simp [outcome?]
      | heard status => by_cases hdone : status = .done <;> simp [outcome?, hdone]
  | restore t =>
      cases resolution with
      | failed => simp [outcome?]
      | timedOut => simp [outcome?, hmarker]
      | heard status => by_cases hdone : status = .done <;> simp [outcome?, hmarker, hdone]

/-- An operation with a transfer in progress. -/
def confirm (c : Confirmation) : Operation → Operation
  | .backup b => .backup { b with stage := .confirming c }
  | .restore t =>
      match t.stage with
      | .provisioning => .restore t
      | .ordering target | .confirming target _ =>
          .restore { t with stage := .confirming target c }
  | .removal d => .removal d

@[simp] theorem settings_confirm (op : Operation) (c : Confirmation) :
    (op.confirm c).settings = op.settings := by
  cases op with
  | restore t =>
      simp only [confirm]
      cases t.stage <;> rfl
  | _ => rfl

/-- A restore that has a job has a target. -/
theorem confirm_restore {t : Restore} {job : JobHandle} (h : job? (.restore t) = some job) :
    ∃ target, marker? (.restore t) = some target.name ∧
      ∀ c, confirm c (.restore t) = .restore { t with stage := .confirming target c } := by
  cases hstage : t.stage with
  | provisioning => simp [job?, hstage] at h
  | ordering target =>
      exact ⟨target, by simp only [marker?, hstage], fun c => by simp only [confirm, hstage]⟩
  | confirming target _ =>
      exact ⟨target, by simp only [marker?, hstage], fun c => by simp only [confirm, hstage]⟩

variable {op : Operation} {job : JobHandle}

theorem confirmation?_call?_confirm (h : op.job? = some job) (c : Confirmation) :
    (op.confirm c).confirmation? = some c ∧ (op.confirm c).call? = c.call? := by
  cases op with
  | backup b => exact ⟨rfl, rfl⟩
  | restore t =>
      obtain ⟨target, _, hconfirm⟩ := confirm_restore h
      rw [hconfirm]
      exact ⟨rfl, rfl⟩
  | removal d => cases h

/-- With its job accepted, an operation starts its transfer. -/
theorem resume_accepted {call : Call} (waits : op.call? = some call)
    (orders : call.job? = some job) (r : Registry) :
    op.confirmation? = none ∧ op.job? = some job ∧
      ∃ action object, op.transfer? = some (action, object) ∧
        op.resume r (.answered (.accepted (.ok job))) =
          some (.waits r (op.confirm (.start job action object))) := by
  cases op with
  | backup b =>
      change b.call? = _ at waits
      cases hstage : b.stage with
      | preserving volume =>
          simp only [Backup.call?, hstage] at waits
          cases waits
          cases orders
      | ordering =>
          simp only [Backup.call?, hstage] at waits
          cases waits
          refine ⟨by simp only [confirmation?, hstage], orders, _, _, rfl, ?_⟩
          simp [resume, Backup.resume, hstage, Progress.map, confirm]
      | confirming c =>
          simp only [Backup.call?, hstage, Confirmation.call?] at waits
          split at waits <;> cases waits
          cases orders
  | restore t =>
      change t.call? = _ at waits
      cases hstage : t.stage with
      | provisioning =>
          simp only [Restore.call?, hstage] at waits
          cases waits
          cases orders
      | ordering target =>
          simp only [Restore.call?, hstage] at waits
          cases waits
          refine ⟨by simp only [confirmation?, hstage], ?_, _, _, rfl, ?_⟩
          · simpa only [job?, hstage, Call.job?] using orders
          · simp [resume, Restore.resume, hstage, Progress.map, confirm]
      | confirming target c =>
          simp only [Restore.call?, hstage, Confirmation.call?] at waits
          split at waits <;> cases waits
          cases orders
  | removal d =>
      change d.call? = _ at waits
      unfold Removal.call? at waits
      split at waits <;> cases waits <;> cases orders

/-- A transfer that goes on leaves everything else as it was. -/
theorem resume_confirm_continues (h : op.job? = some job) {c c' : Confirmation} {signal : Signal}
    (advance : c.advance signal = some (.continues c')) (r : Registry) :
    (op.confirm c).resume r signal = some (.waits r (op.confirm c')) := by
  cases op with
  | backup b => simp [confirm, resume, Backup.resume, advance, Progress.map]
  | restore t =>
      obtain ⟨target, _, hconfirm⟩ := confirm_restore h
      rw [hconfirm, hconfirm]
      simp [resume, Restore.resume, advance, Progress.map]
  | removal d => cases h

/-- An operation with a transfer in progress is one that had it put in. -/
theorem confirm_eq_self {c : Confirmation} (h : op.confirmation? = some c) : op.confirm c = op := by
  rcases of_confirmation? h with ⟨b, rfl, hstage⟩ | ⟨t, target, rfl, hstage⟩
  · simp only [confirm, ← hstage]
  · simp only [confirm, hstage]
    rw [← hstage]

/-- It has a job. -/
theorem exists_job?_of_confirmation {c : Confirmation} (h : op.confirmation? = some c) :
    ∃ job, op.job? = some job := by
  rcases of_confirmation? h with ⟨b, rfl, hstage⟩ | ⟨t, target, rfl, hstage⟩
  · exact ⟨_, rfl⟩
  · simp [job?, hstage]

theorem isSettling_iff :
    op.isSettling ↔ ∃ c, op.confirmation? = some c ∧ c.stage = .settling := by
  unfold isSettling
  cases op.confirmation? <;> simp

/-- When the time limit is reached, it ends without success. -/
theorem resume_limitOver {c : Confirmation} (h : op.confirmation? = some c) (r : Registry) :
    ∃ cause, op.resume r .limitOver = some (.ends r (.error cause)) := by
  have hadvance : c.advance .limitOver = some .timedOut := rfl
  rcases of_confirmation? h with ⟨b, rfl, hstage⟩ | ⟨t, target, rfl, hstage⟩
  · exact ⟨_, by simp only [resume, Backup.resume, hstage, hadvance]; rfl⟩
  · exact ⟨_, by simp only [resume, Restore.resume, hstage, hadvance]; rfl⟩

/-- What is noted of its job decides a backup. -/
theorem conclude_backup (r : Registry) (b : Backup) (job : JobHandle) :
    ∃ r' outcome, b.conclude r job = .ends r' outcome ∧
      outcome? (.backup b) (.heard (r.statusOf job)) = some outcome := by
  rcases (r.statusOf job).ite_isSuccess _ _ with ⟨hdone, hends⟩ | ⟨hother, hends⟩
  · exact ⟨_, _, hends, by simp [outcome?, hdone]⟩
  · exact ⟨_, _, hends, by simp [outcome?, hother]⟩

/-- What is noted of its job decides a restore. -/
theorem conclude_restore {r : Registry} {t : Restore} {target : Volume} (job : JobHandle)
    (h : marker? (.restore t) = some target.name) :
    ∃ r' outcome, Restore.conclude r target job = .ends r' outcome ∧
      outcome? (.restore t) (.heard (r.statusOf job)) = some outcome := by
  rcases (r.statusOf job).ite_isSuccess _ _ with ⟨hdone, hends⟩ | ⟨hother, hends⟩
  · exact ⟨_, _, hends, by simp [outcome?, h, hdone]⟩
  · exact ⟨_, _, hends, by simp [outcome?, h, hother]⟩

/-- A transfer that comes to an end has the operation report what it came to. -/
theorem resume_confirm_ends {c : Confirmation} (h : op.job? = some c.job)
    (moves : op.transfer? = some (c.action, c.object)) {signal : Signal} {verdict : Verdict}
    {r : Registry} {resolution : Resolution} (advance : c.advance signal = some verdict)
    (comes : verdict.resolution? (r.statusOf c.job) = some resolution) :
    ∃ r' outcome, (op.confirm c).resume r signal = some (.ends r' outcome) ∧
      op.outcome? resolution = some outcome := by
  have hmarker : op.marker? = some c.job.volumeId := by
    rw [marker?_eq, h]
    rfl
  cases op with
  | backup b =>
      obtain ⟨haction, hobject⟩ := Prod.mk.inj (Option.some.inj moves)
      have hvolume : b.volumeId = c.job.volumeId := Option.some.inj hmarker
      cases verdict with
      | continues c' => cases comes
      | settled =>
          cases comes
          obtain ⟨r', outcome, hconclude, houtcome⟩ :=
            conclude_backup r { b with stage := .confirming c } c.job
          refine ⟨r', outcome, ?_, houtcome⟩
          simp [confirm, resume, Backup.resume, advance, hconclude, Progress.map]
      | failed cause =>
          cases comes
          refine ⟨r, .error (.transferFailed cause), ?_, ?_⟩
          · simp [confirm, resume, Backup.resume, advance, Progress.map]
          · simp [outcome?, (Confirmation.advance_eq_failed advance).2.2, haction, hobject]
      | timedOut =>
          cases comes
          refine ⟨r, .error (.timeout c.job.volumeId b.settings.operationTimeout), ?_, ?_⟩
          · simp [confirm, resume, Backup.resume, advance, Progress.map]
          · simp [outcome?, hvolume]
  | restore t =>
      obtain ⟨haction, hobject⟩ := Prod.mk.inj (Option.some.inj moves)
      obtain ⟨target, htarget, hconfirm⟩ := confirm_restore h
      rw [hconfirm]
      cases verdict with
      | continues c' => cases comes
      | settled =>
          cases comes
          obtain ⟨r', outcome, hconclude, houtcome⟩ := conclude_restore (r := r) c.job htarget
          refine ⟨r', outcome, ?_, houtcome⟩
          simp [resume, Restore.resume, advance, hconclude, Progress.map]
      | failed cause =>
          cases comes
          refine ⟨r, .error (.transferFailed cause), ?_, ?_⟩
          · simp [resume, Restore.resume, advance, Progress.map]
          · simp [outcome?, (Confirmation.advance_eq_failed advance).2.2, haction, hobject]
      | timedOut =>
          cases comes
          refine ⟨r, .error (.timeout c.job.volumeId t.settings.operationTimeout), ?_, ?_⟩
          · simp [resume, Restore.resume, advance, Progress.map]
          · simp [outcome?, hmarker]
  | removal d => cases h

end Operation

end SnapshotEngine
