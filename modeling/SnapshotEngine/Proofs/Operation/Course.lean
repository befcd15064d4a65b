import Mathlib.Data.List.Induction
import SnapshotEngine.Proofs.Operation.Removal

/-!
# The course of a removal

What a removal calls for and how it ends is settled by where it starts and by the
answers it is given; neither the registry nor the identifier has a part in it.  A
removal that looks the namespace of its volume up first goes on, once it was told,
like one that starts with the snapshot in hand.

* `standing_resume_congr`, `standing_resume` — what a step depends on;
* `course`, `course_concat` — the calls and the standing after some answers;
* `course_cons`, `course_located` — the removal that looks the namespace up;
* `course_congr` — of the settings only the namer matters;
* `Attempt`, `attempt_of_course` — the removal with the snapshot in hand, case by case;
* `erasing_of_course_retract`, `erasing_of_course_locating` — whose object it deletes.
-/

namespace SnapshotEngine

/-- The command that has the backup of a snapshot deleted. -/
def Snapshot.retraction (s : Snapshot) : Call :=
  .deleteBackup s.volumeId s.backupName s.claimNamespace

/-- The deletion of the object of a snapshot. -/
def Snapshot.erasure (settings : Settings) (s : Snapshot) : Call :=
  .move .delete (settings.namer.objectName s.volumeId s.backupName)

namespace Removal

/-- Where a step leads, whatever becomes of the registry: to a stage, or to the
end. -/
def standing : Progress Removal → RemovalStage ⊕ Outcome
  | .waits _ d => .inl d.stage
  | .ends _ outcome => .inr outcome

/-- What a removal calls for as it gets there. -/
def callsAt (settings : Settings) : RemovalStage ⊕ Outcome → List Call
  | .inl stage => (call? ⟨settings, "", stage⟩).toList
  | .inr _ => []

/-- Where an answer leads, if it is waited for. -/
def standingAfter (settings : Settings) :
    RemovalStage ⊕ Outcome → Answer → Option (RemovalStage ⊕ Outcome)
  | .inl stage, answer =>
      (resume .empty ⟨settings, "", stage⟩ (.answered answer)).map standing
  | .inr _, _ => none

/-- The calls that were made and the standing, after one more answer. -/
def follow (settings : Settings) (so : List Call × (RemovalStage ⊕ Outcome)) (answer : Answer) :
    Option (List Call × (RemovalStage ⊕ Outcome)) :=
  (standingAfter settings so.2 answer).map fun next => (so.1 ++ callsAt settings next, next)

/-- The calls of a removal and its standing, after all answers that it was given. -/
def course (settings : Settings) (start : RemovalStage ⊕ Outcome) (answers : List Answer) :
    Option (List Call × (RemovalStage ⊕ Outcome)) :=
  answers.foldlM (follow settings) (callsAt settings start, start)

/-- A snapshot in hand leads to its retraction, if no field of it is missing. -/
theorem standing_retract (r : Registry) (settings : Settings) (snapshotId : String)
    (s : Snapshot) :
    standing (retract r settings snapshotId s) =
      match s.missingField with
      | some field => .inr (.error (.insufficientMetadata field))
      | none => .inl (.retracting s) := by
  unfold retract
  cases s.missingField <;> rfl

/-- Where a step leads depends on the stage, on the namer and on the answer. -/
theorem standing_resume_congr (r r' : Registry) (d d' : Removal) (hstage : d'.stage = d.stage)
    (hnamer : d'.settings.namer = d.settings.namer) (answer : Answer) :
    (d'.resume r' (.answered answer)).map standing = (d.resume r (.answered answer)).map standing
    := by
  cases h : d.stage with
  | locating volumeId backupName =>
      cases answer with
      | located result =>
          simp only [resume, hstage, h]
          cases result with
          | ok claimNamespace => simp [standing_retract]
          | error cause =>
              cases cause with
              | unclaimed name => simp [standing_retract]
              | _ => rfl
      | _ => simp [resume, hstage, h]
  | retracting s =>
      cases answer with
      | retracted result =>
          simp only [resume, hstage, h]
          cases result with
          | ok done => rfl
          | error cause => cases hfound : cause.isNotFound <;> simp [hfound, standing]
      | _ => simp [resume, hstage, h]
  | erasing s =>
      cases answer with
      | moved done => cases done <;> simp [resume, hstage, h, standing, object, hnamer]
      | _ => simp [resume, hstage, h]

theorem standing_resume (r : Registry) (d : Removal) (answer : Answer) :
    (d.resume r (.answered answer)).map standing =
      standingAfter d.settings (.inl d.stage) answer :=
  standing_resume_congr .empty r ⟨d.settings, "", d.stage⟩ d rfl rfl answer

theorem standingAfter_congr {settings settings' : Settings} (h : settings'.namer = settings.namer)
    (so : RemovalStage ⊕ Outcome) (answer : Answer) :
    standingAfter settings' so answer = standingAfter settings so answer := by
  cases so with
  | inr outcome => rfl
  | inl stage =>
      exact standing_resume_congr .empty .empty ⟨settings, "", stage⟩ ⟨settings', "", stage⟩ rfl h
        answer

theorem callsAt_congr {settings settings' : Settings} (h : settings'.namer = settings.namer)
    (so : RemovalStage ⊕ Outcome) : callsAt settings' so = callsAt settings so := by
  cases so with
  | inr outcome => rfl
  | inl stage => cases stage <;> simp [callsAt, call?, object, h]

theorem course_congr {settings settings' : Settings} (h : settings'.namer = settings.namer)
    (start : RemovalStage ⊕ Outcome) (answers : List Answer) :
    course settings' start answers = course settings start answers := by
  have hfollow : follow settings' = follow settings := by
    funext so answer
    unfold follow
    rw [standingAfter_congr h]
    simp only [callsAt_congr h]
  unfold course
  rw [hfollow, callsAt_congr h]

/-- One more answer is one more step. -/
theorem course_concat (settings : Settings) (start : RemovalStage ⊕ Outcome)
    (answers : List Answer) (answer : Answer) :
    course settings start (answers ++ [answer]) =
      (course settings start answers).bind fun so => follow settings so answer := by
  unfold course
  rw [List.foldlM_append]
  simp

/-- Calls that were made before stay in front. -/
theorem foldlM_follow_append (settings : Settings) (first made : List Call)
    (so : RemovalStage ⊕ Outcome) (answers : List Answer) :
    answers.foldlM (follow settings) (first ++ made, so) =
      (answers.foldlM (follow settings) (made, so)).map
        fun after => (first ++ after.1, after.2) := by
  induction answers generalizing made so with
  | nil => rfl
  | cons answer rest ih =>
      simp only [List.foldlM_cons, follow]
      cases standingAfter settings so answer with
      | none => rfl
      | some next =>
          simp only [Option.map_some, Option.bind_eq_bind, Option.bind_some, List.append_assoc]
          exact ih _ _

/-- What a removal calls for as it starts comes first. -/
theorem callsAt_prefix_course {settings : Settings} {start so : RemovalStage ⊕ Outcome}
    {answers : List Answer} {made : List Call}
    (h : course settings start answers = some (made, so)) : callsAt settings start <+: made := by
  unfold course at h
  rw [← List.append_nil (callsAt settings start), foldlM_follow_append] at h
  obtain ⟨after, _, heq⟩ := Option.map_eq_some_iff.mp h
  cases heq
  exact List.prefix_append _ _

/-- The first answer leads to where the others set out from. -/
theorem course_cons (settings : Settings) (start : RemovalStage ⊕ Outcome) (answer : Answer)
    (answers : List Answer) :
    course settings start (answer :: answers) =
      (standingAfter settings start answer).bind fun next =>
        (course settings next answers).map fun after =>
          (callsAt settings start ++ after.1, after.2) := by
  unfold course
  rw [List.foldlM_cons, follow]
  cases standingAfter settings start answer with
  | none => rfl
  | some next => exact foldlM_follow_append settings _ _ _ answers

/-- A removal that is told the namespace it looked up goes on like one with the
snapshot in hand. -/
theorem course_located (settings : Settings) (volumeId backupName claimNamespace : String)
    (answers : List Answer) :
    course settings (.inl (.locating volumeId backupName))
        (.located (.ok claimNamespace) :: answers) =
      (course settings
        (standing (retract .empty settings "" ⟨volumeId, backupName, claimNamespace⟩)) answers).map
          fun after => (.claimNamespace volumeId :: after.1, after.2) := by
  rw [course_cons]
  rfl

/-- A removal with the snapshot in hand is not told of a namespace. -/
theorem course_retract_located (settings : Settings) (s : Snapshot)
    (result : Except DirectoryError String) (answers : List Answer) :
    course settings (standing (retract .empty settings "" s)) (.located result :: answers) =
      none := by
  have hnone : standingAfter settings (standing (retract .empty settings "" s))
      (.located result) = none := by
    rw [standing_retract]
    cases s.missingField <;> rfl
  rw [course_cons, hnone, Option.bind_none]

/-! ## With the snapshot in hand -/

/-- How far a removal with a snapshot in hand may get: the answers that it was given, the
calls that it has made, and where it stands. -/
inductive Attempt (settings : Settings) (s : Snapshot) :
    List Answer → List Call → RemovalStage ⊕ Outcome → Prop where
  | asked : Attempt settings s [] [s.retraction] (.inl (.retracting s))
  | refused {cause : ControlPlaneError} (kept : ¬ Retracts (.error cause)) :
      Attempt settings s [.retracted (.error cause)] [s.retraction]
        (.inr (.error (.ofControlPlane cause)))
  | retracted {result : Except ControlPlaneError Unit} (gone : Retracts result) :
      Attempt settings s [.retracted result] [s.retraction, s.erasure settings]
        (.inl (.erasing s))
  | erased {result : Except ControlPlaneError Unit} (gone : Retracts result) :
      Attempt settings s [.retracted result, .moved true] [s.retraction, s.erasure settings]
        (.inr (.ok .deleted))
  | unerased {result : Except ControlPlaneError Unit} (gone : Retracts result) :
      Attempt settings s [.retracted result, .moved false] [s.retraction, s.erasure settings]
        (.inr (.error (.remoteDeleteFailed
          (settings.namer.objectName s.volumeId s.backupName))))

/-- What the answer to the command that retracts a snapshot leads to. -/
theorem standingAfter_retracting {settings : Settings} {s : Snapshot} {answer : Answer}
    {next : RemovalStage ⊕ Outcome}
    (h : standingAfter settings (.inl (.retracting s)) answer = some next) :
    (∃ cause, answer = .retracted (.error cause) ∧ ¬ Retracts (.error cause) ∧
        next = .inr (.error (.ofControlPlane cause))) ∨
      ∃ result, answer = .retracted result ∧ Retracts result ∧ next = .inl (.erasing s) := by
  cases answer with
  | retracted result =>
      cases result with
      | ok done =>
          cases h
          exact .inr ⟨_, rfl, .inl rfl, rfl⟩
      | error cause =>
          cases hfound : cause.isNotFound with
          | true =>
              simp only [standingAfter, resume, hfound, if_true, Option.map_some] at h
              cases h
              exact .inr ⟨_, rfl, .inr ⟨cause, rfl, hfound⟩, rfl⟩
          | false =>
              simp only [standingAfter, resume, hfound] at h
              cases h
              refine .inl ⟨cause, rfl, ?_, rfl⟩
              rintro (hok | ⟨cause', heq, hfound'⟩)
              · cases hok
              · cases heq
                cases hfound.symm.trans hfound'
  | _ => cases h

/-- **Step.**  One more answer takes the removal one step further. -/
theorem Attempt.follow {settings : Settings} {s : Snapshot} {answers : List Answer}
    {answer : Answer} {calls : List Call} {so : RemovalStage ⊕ Outcome}
    {after : List Call × (RemovalStage ⊕ Outcome)} (h : Attempt settings s answers calls so)
    (hfollow : Removal.follow settings (calls, so) answer = some after) :
    Attempt settings s (answers ++ [answer]) after.1 after.2 := by
  obtain ⟨next, hnext, rfl⟩ := Option.map_eq_some_iff.mp hfollow
  cases h with
  | asked =>
      rcases standingAfter_retracting hnext with ⟨cause, rfl, hkept, rfl⟩ | ⟨result, rfl, hgone, rfl⟩
      · exact .refused hkept
      · exact .retracted hgone
  | retracted gone =>
      cases answer with
      | moved done =>
          cases done with
          | true =>
              cases hnext
              exact .erased gone
          | false =>
              cases hnext
              exact .unerased gone
      | _ => cases hnext
  | refused kept => cases hnext
  | erased gone => cases hnext
  | unerased gone => cases hnext

/-- **Run.**  The course of a removal with the snapshot in hand is one of these. -/
theorem attempt_of_course {settings : Settings} {s : Snapshot} {answers : List Answer}
    {calls : List Call} {so : RemovalStage ⊕ Outcome}
    (h : course settings (.inl (.retracting s)) answers = some (calls, so)) :
    Attempt settings s answers calls so := by
  induction answers using List.reverseRecOn generalizing calls so with
  | nil =>
      cases h
      exact .asked
  | append_singleton answers answer ih =>
      rw [course_concat] at h
      obtain ⟨⟨made, stands⟩, hbefore, hfollow⟩ := Option.bind_eq_some_iff.mp h
      exact (ih hbefore).follow hfollow

namespace Attempt

variable {settings : Settings} {s : Snapshot} {answers : List Answer} {calls : List Call}
  {so : RemovalStage ⊕ Outcome}

/-- The command is the same every time, and nothing but the deletion follows it. -/
theorem calls_eq (h : Attempt settings s answers calls so) :
    calls = [s.retraction] ∨ calls = [s.retraction, s.erasure settings] := by
  cases h with
  | asked | refused => exact .inl rfl
  | retracted | erased | unerased => exact .inr rfl

/-- The object is to be deleted exactly if the backup is gone. -/
theorem erasure_mem_iff (h : Attempt settings s answers calls so) :
    s.erasure settings ∈ calls ↔ ∃ result, .retracted result ∈ answers ∧ Retracts result := by
  have hne : s.erasure settings ∉ [s.retraction] := by simp [Snapshot.erasure, Snapshot.retraction]
  cases h with
  | asked => simpa using hne
  | refused kept =>
      refine iff_of_false hne ?_
      rintro ⟨result, hmem, hgone⟩
      rw [List.mem_singleton] at hmem
      cases hmem
      exact kept hgone
  | retracted gone | erased gone | unerased gone =>
      exact iff_of_true (by simp) ⟨_, List.mem_cons_self .., gone⟩

/-- It succeeds exactly if the backup is gone and the object was deleted. -/
theorem eq_deleted_iff (h : Attempt settings s answers calls so) (success : Success) :
    so = .inr (.ok success) ↔ success = .deleted ∧
      (∃ result, .retracted result ∈ answers ∧ Retracts result) ∧ .moved true ∈ answers := by
  cases h with
  | asked => simp
  | refused kept => simp
  | retracted gone => simp
  | unerased gone => simp
  | erased gone =>
      constructor
      · intro heq
        cases heq
        exact ⟨rfl, ⟨_, List.mem_cons_self .., gone⟩, by simp⟩
      · rintro ⟨rfl, _⟩
        rfl

/-- It fails exactly if the backup is not gone, or else the object is not. -/
theorem eq_error_iff (h : Attempt settings s answers calls so) :
    (∃ cause, so = .inr (.error cause)) ↔
      (∃ result, .retracted result ∈ answers ∧ ¬ Retracts result) ∨ .moved false ∈ answers := by
  cases h with
  | asked => simp
  | refused kept => exact iff_of_true ⟨_, rfl⟩ (.inl ⟨_, List.mem_singleton_self _, kept⟩)
  | unerased gone => exact iff_of_true ⟨_, rfl⟩ (.inr (by simp))
  | retracted gone | erased gone =>
      refine iff_of_false (by simp) ?_
      rintro (⟨result, hmem, hkept⟩ | hmem)
      · simp only [List.mem_cons, Answer.retracted.injEq, reduceCtorEq, List.not_mem_nil,
          or_false] at hmem
        exact hkept (hmem ▸ gone)
      · simp at hmem

end Attempt

/-! ## Whose object is deleted -/

/-- A removal that has ended is not given any answer. -/
theorem answers_of_course_ended {settings : Settings} {outcome : Outcome} {answers : List Answer}
    {after : List Call × (RemovalStage ⊕ Outcome)}
    (h : course settings (.inr outcome) answers = some after) :
    answers = [] ∧ after.2 = .inr outcome := by
  cases answers with
  | nil =>
      cases h
      exact ⟨rfl, rfl⟩
  | cons answer rest => cases h

/-- A removal with a snapshot in hand deletes the object of that one, of which nothing is
missing. -/
theorem erasing_of_course_retract {settings : Settings} {s sn : Snapshot} {answers : List Answer}
    {calls : List Call}
    (h : course settings (standing (retract .empty settings "" s)) answers =
      some (calls, .inl (.erasing sn))) :
    sn = s ∧ s.missingField = none ∧ ∃ result, answers = [.retracted result] := by
  rw [standing_retract] at h
  cases hmissing : s.missingField with
  | some field =>
      rw [hmissing] at h
      cases (answers_of_course_ended h).2
  | none =>
      rw [hmissing] at h
      cases attempt_of_course h with
      | retracted gone => exact ⟨rfl, rfl, _, rfl⟩

/-- Without a namespace the removal fails. -/
theorem standingAfter_unlocated (settings : Settings) (volumeId backupName : String)
    (cause : DirectoryError) :
    ∃ failure, standingAfter settings (.inl (.locating volumeId backupName))
      (.located (.error cause)) = some (.inr (.error failure)) := by
  have hunlocated : ∀ claimNamespace,
      (.error cause : Except DirectoryError String) = .ok claimNamespace →
        (Snapshot.mk volumeId backupName claimNamespace).missingField ≠ none := nofun
  obtain ⟨failure, hends⟩ :=
    resume_unlocated (d := ⟨settings, "", .locating volumeId backupName⟩) rfl hunlocated .empty
  exact ⟨failure, by simp only [standingAfter, hends, Option.map_some, standing]⟩

/-- A removal that looks the namespace up deletes the object of the snapshot that it made
up with it. -/
theorem erasing_of_course_locating {settings : Settings} {volumeId backupName : String}
    {sn : Snapshot} {answers : List Answer} {calls : List Call}
    (h : course settings (.inl (.locating volumeId backupName)) answers =
      some (calls, .inl (.erasing sn))) :
    ∃ claimNamespace result, answers = [.located (.ok claimNamespace), .retracted result] ∧
      sn = ⟨volumeId, backupName, claimNamespace⟩ ∧ sn.missingField = none := by
  cases answers with
  | nil => cases h
  | cons answer rest =>
      cases answer with
      | located found =>
          cases found with
          | ok claimNamespace =>
              rw [course_located] at h
              obtain ⟨after, hcourse, heq⟩ := Option.map_eq_some_iff.mp h
              obtain ⟨calls', so⟩ := after
              cases heq
              obtain ⟨rfl, hcomplete, result, rfl⟩ := erasing_of_course_retract hcourse
              exact ⟨claimNamespace, result, rfl, rfl, hcomplete⟩
          | error cause =>
              obtain ⟨failure, hends⟩ := standingAfter_unlocated settings volumeId backupName cause
              rw [course_cons, hends, Option.bind_some] at h
              obtain ⟨after, hcourse, heq⟩ := Option.map_eq_some_iff.mp h
              obtain ⟨_, hstands⟩ := answers_of_course_ended hcourse
              cases (congrArg Prod.snd heq).symm.trans hstands
      | _ => cases h

end Removal

end SnapshotEngine
