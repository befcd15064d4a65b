import SnapshotEngine.Proofs.Engine.Ownership
import SnapshotEngine.Rehearsal.Cast
import SnapshotEngine.Rehearsal.Site

/-!
# Which job is accepted

The client never reads a job from an answer: what it accepts is the job that was
ordered.  The control plane of a rehearsal does the same.  So it is for an engine to
see to it that its orders are carried out by one of them, and what is said of engines
whose jobs are kept is said of it.

* `Accepts` — what either answers to the order of a job;
* `Accepts.job?_eq` — a job that is accepted is the one that was ordered;
* `keepsJobs_of_carriedOut` — so a run whose orders are carried out keeps its jobs;
* `Site.accepts_of_answer?`, `Cast.accepts_of_answer?` — where orders are carried out.
-/

namespace SnapshotEngine

/-- What is sent is accepted with what was to be made of the answer. -/
theorem ControlPlaneClient.eq_of_send {α : Type} {transport : HttpRequest → HttpReply}
    {request : Option HttpRequest} {value found : α}
    (h : (send transport request fun _ => .ok value).result = .ok found) : found = value := by
  unfold send at h
  split at h
  · cases h
  · rename_i sent
    cases hread : read (transport sent) with
    | error cause =>
        simp only [hread, Except.bind] at h
        cases h
    | ok body =>
        simp only [hread, Except.bind, Except.ok.injEq] at h
        exact h.symm

/-- What a rehearsed control plane accepts is what it was given. -/
theorem ScriptedPlane.eq_of_unlessRefused {α : Type} {refused : Option ControlPlaneError}
    {value found : α} (h : unlessRefused refused value = .ok found) : found = value := by
  unfold unlessRefused at h
  split at h
  · cases h
  · cases h
    rfl

/-- What the order of a job comes to with a client, over whatever network, or with a control
plane that follows a script. -/
inductive Accepts : Call → Except ControlPlaneError JobHandle → Prop where
  | clientBackup (c : ControlPlaneClient) (transport : HttpRequest → HttpReply)
      (request : BackupRequest) :
      Accepts (.createBackup request) (c.createBackup transport request).result
  | clientRestore (c : ControlPlaneClient) (transport : HttpRequest → HttpReply)
      (request : RestoreRequest) :
      Accepts (.createRestore request) (c.createRestore transport request).result
  | scriptedBackup (p : ScriptedPlane) (request : BackupRequest) :
      Accepts (.createBackup request) (p.createBackup request).1
  | scriptedRestore (p : ScriptedPlane) (request : RestoreRequest) :
      Accepts (.createRestore request) (p.createRestore request).1

/-- A job that is accepted is the one that was ordered. -/
theorem Accepts.job?_eq {call : Call} {result : Except ControlPlaneError JobHandle}
    (h : Accepts call result) {job : JobHandle} (haccepted : result = .ok job) :
    call.job? = some job := by
  cases h with
  | clientBackup c transport request =>
      exact congrArg some (ControlPlaneClient.eq_of_send haccepted).symm
  | clientRestore c transport request =>
      exact congrArg some (ControlPlaneClient.eq_of_send haccepted).symm
  | scriptedBackup p request =>
      exact congrArg some (ScriptedPlane.eq_of_unlessRefused haccepted).symm
  | scriptedRestore p request =>
      exact congrArg some (ScriptedPlane.eq_of_unlessRefused haccepted).symm

/-- Whatever was answered to an order of a job is what the order came to. -/
def CarriedOut (events : List Event) : Prop :=
  ∀ id call result, .answered id call (.accepted result) ∈ events → Accepts call result

/-- **Jobs are kept.**  A run whose orders are carried out by clients, or by control planes that
follow a script, keeps its jobs. -/
theorem keepsJobs_of_carriedOut {e : Engine} {stimuli : List Stimulus}
    (h : CarriedOut (e.run stimuli).2) : KeepsJobs (e.run stimuli).2 := by
  intro event hmem
  cases event with
  | answered id call answer =>
      cases answer with
      | accepted result =>
          cases result with
          | ok job => exact decide_eq_true ((h id call _ hmem).job?_eq rfl)
          | error cause => rfl
      | _ => rfl
  | _ => rfl

/-- An engine that is wired up has its orders carried out by its client. -/
theorem Wiring.accepts_of_perform {w : Wiring} {s : Surroundings} {call : Call}
    {p : Performed Answer} (h : w.perform s call = some p)
    {result : Except ControlPlaneError JobHandle} (haccepted : p.answer = .accepted result) :
    Accepts call result := by
  cases call with
  | createBackup request =>
      cases h
      cases haccepted
      exact .clientBackup w.client s.transport request
  | createRestore request =>
      cases h
      cases haccepted
      exact .clientRestore w.client s.transport request
  | deleteBackup volumeId backupName claimNamespace =>
      cases h
      cases haccepted
  | move action object =>
      cases h
      cases haccepted
  | _ => cases h

theorem Site.accepts_of_answer? {s after : Site} {call : Call}
    {result : Except ControlPlaneError JobHandle}
    (h : s.answer? call = some (.accepted result, after)) : Accepts call result := by
  have hperform : ∀ performed : Option (Performed Answer),
      s.wiring.perform s.surroundings call = performed →
        performed.map s.note = some (.accepted result, after) → Accepts call result := by
    intro performed hperformed hnote
    obtain ⟨p, rfl, hp⟩ := Option.map_eq_some_iff.mp hnote
    exact Wiring.accepts_of_perform hperformed (Prod.mk.inj hp).1
  cases call with
  | preserveClaim volume => cases h
  | provision volumeId backupName => cases h
  | claimNamespace volumeId => cases h
  | _ => exact hperform _ rfl h

/-- In a rehearsal they are carried out by the control plane of the cast. -/
theorem Cast.accepts_of_answer? {c after : Cast} {call : Call}
    {result : Except ControlPlaneError JobHandle}
    (h : c.answer? call = some (.accepted result, after)) : Accepts call result := by
  cases call with
  | createBackup request =>
      cases h
      exact .scriptedBackup c.plane request
  | createRestore request =>
      cases h
      exact .scriptedRestore c.plane request
  | move action object =>
      obtain ⟨_, _, hmoved⟩ := Option.map_eq_some_iff.mp h
      cases hmoved
  | _ => cases h

end SnapshotEngine
