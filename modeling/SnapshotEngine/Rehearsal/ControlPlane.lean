import SnapshotEngine.ControlPlane.Error
import SnapshotEngine.Job.Request
import SnapshotEngine.Job.Status
import SnapshotEngine.Poller

/-!
# A control plane that follows a script

The control plane of a rehearsal accepts every command, unless told to refuse
all of its kind, and records it either way.  To a question after a job it gives
the next failure of its script, or else the next status, or else the last status
once more; with nothing scripted every job is pending.
-/

namespace SnapshotEngine

/-- A control plane that follows a script. -/
structure ScriptedPlane where
  backups : List BackupRequest
  restores : List RestoreRequest
  /-- The volume, backup and namespace of each deletion. -/
  deletions : List (String × String × String)
  backupsRefused : Option ControlPlaneError
  restoresRefused : Option ControlPlaneError
  deletionsRefused : Option ControlPlaneError
  /-- The statuses still to be given. -/
  statuses : List JobStatus
  lastStatus : JobStatus
  /-- The failures still to be given. -/
  failures : List ControlPlaneError
  /-- How many questions were asked. -/
  queries : Nat
  /-- The question, counted from one, that brings the asker down. -/
  crashAt : Option Nat
deriving DecidableEq, Repr, Inhabited

/-- What may be arranged with a control plane. -/
inductive PlaneCue where
  | pushStatuses (statuses : List JobStatus)
  | failNextQuery (error : ControlPlaneError)
  | refuseBackups (error : ControlPlaneError)
  | refuseRestores (error : ControlPlaneError)
  | refuseDeletions (error : ControlPlaneError)
deriving DecidableEq, Repr, Inhabited

namespace ScriptedPlane

/-- The control plane without a script. -/
def empty : ScriptedPlane where
  backups := []
  restores := []
  deletions := []
  backupsRefused := none
  restoresRefused := none
  deletionsRefused := none
  statuses := []
  lastStatus := .pending
  failures := []
  queries := 0
  crashAt := none

/-- Does as arranged. -/
def cue (p : ScriptedPlane) : PlaneCue → ScriptedPlane
  | .pushStatuses statuses => { p with statuses := p.statuses ++ statuses }
  | .failNextQuery error => { p with failures := p.failures ++ [error] }
  | .refuseBackups error => { p with backupsRefused := some error }
  | .refuseRestores error => { p with restoresRefused := some error }
  | .refuseDeletions error => { p with deletionsRefused := some error }

/-- How many commands were received. -/
def commands (p : ScriptedPlane) : Nat :=
  p.backups.length + p.restores.length + p.deletions.length

/-- Success with a value, unless there is a refusal. -/
def unlessRefused {α : Type} (refused : Option ControlPlaneError) (value : α) :
    Except ControlPlaneError α :=
  match refused with
  | some error => .error error
  | none => .ok value

/-- Takes the command for a backup. -/
def createBackup (p : ScriptedPlane) (request : BackupRequest) :
    Except ControlPlaneError JobHandle × ScriptedPlane :=
  (unlessRefused p.backupsRefused request.job, { p with backups := p.backups ++ [request] })

/-- Takes the command for a restore. -/
def createRestore (p : ScriptedPlane) (request : RestoreRequest) :
    Except ControlPlaneError JobHandle × ScriptedPlane :=
  (unlessRefused p.restoresRefused request.job, { p with restores := p.restores ++ [request] })

/-- Takes the command to delete a backup. -/
def deleteBackup (p : ScriptedPlane) (volumeId backupName claimNamespace : String) :
    Except ControlPlaneError Unit × ScriptedPlane :=
  (unlessRefused p.deletionsRefused (),
    { p with deletions := p.deletions ++ [(volumeId, backupName, claimNamespace)] })

/-- Answers a question after a job. -/
def ask (p : ScriptedPlane) : PollerSignal × ScriptedPlane :=
  if p.crashAt = some (p.queries + 1) then (.crashed, p)
  else
    let p := { p with queries := p.queries + 1 }
    match p.failures with
    | error :: later => (.answered (.error error), { p with failures := later })
    | [] =>
        match p.statuses with
        | status :: later =>
            (.answered (.ok status), { p with statuses := later, lastStatus := status })
        | [] => (.answered (.ok p.lastStatus), p)

end ScriptedPlane

end SnapshotEngine
