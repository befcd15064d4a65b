import SnapshotEngine.Proofs.ControlPlane.Address
import SnapshotEngine.Proofs.ControlPlane.Answer
import SnapshotEngine.Proofs.Engine.Confirmation

/-!
# Only an explicit status counts

Whatever the control plane replies, a poller goes on until a complete answer of success has a
final status standing in the right place, under its very name; and an operation is confirmed
only by such an answer that says `Done`.

* `Poller.Turn`, `Poller.turns` — a poller that gets one reply after the other;
* `Poller.explicit_of_turn`, `Poller.explicit_of_turns` — what makes it stop;
* `heard_done_of_ended` — what was heard of an operation that ended well;
* `only_explicit_done_confirms` — these, with all that a question after a job may come to.
-/

namespace SnapshotEngine

open ControlPlaneClient (AnswerOf Declares)

namespace Poller

/-! ## One reply after the other -/

/-- What a poller gets next. -/
inductive Turn where
  /-- A reply comes of its question. -/
  | replied (reply : HttpReply)
  /-- The rest is over. -/
  | rested
  | cancelled

/-- A poller that asks through a client gets something. -/
def turn (c : ControlPlaneClient) (p : Poller) : Turn → Poller
  | .replied reply => p.advance (.answered (c.jobStatus (fun _ => reply) p.job).result)
  | .rested => p.advance .woken
  | .cancelled => p.cancel

/-- A poller gets one thing after the other. -/
def turns (c : ControlPlaneClient) (p : Poller) (given : List Turn) : Poller :=
  given.foldl (turn c) p

variable {c : ControlPlaneClient} {p : Poller}

@[simp] theorem turns_nil : p.turns c [] = p := rfl

@[simp] theorem turns_cons (t : Turn) (given : List Turn) :
    p.turns c (t :: given) = (p.turn c t).turns c given := rfl

/-- A poller that was not cancelled had not been before. -/
theorem live_of_turn {t : Turn} (h : (p.turn c t).cancelled = false) : p.cancelled = false := by
  cases t with
  | replied reply => rwa [turn, cancelled_advance] at h
  | rested => rwa [turn, cancelled_advance] at h
  | cancelled => cases h

theorem live_of_turns {given : List Turn} (h : (p.turns c given).cancelled = false) :
    p.cancelled = false := by
  induction given generalizing p with
  | nil => exact h
  | cons t more ih => exact live_of_turn (ih h)

/-- A poller that has stopped stays as it is, if it is not cancelled. -/
theorem turns_of_exited {given : List Turn} (exited : p.stage = .exited)
    (live : (p.turns c given).cancelled = false) : p.turns c given = p := by
  induction given generalizing p with
  | nil => rfl
  | cons t more ih =>
      rw [turns_cons] at live ⊢
      have hsame : p.turn c t = p := by
        cases t with
        | replied reply => exact advance_of_exited exited _
        | rested => exact advance_of_exited exited _
        | cancelled => cases live_of_turns live
      rw [hsame] at live ⊢
      exact ih exited live

/-- A poller has stopped with a status that is final, and that a body declares. -/
structure Stops (p : Poller) (body : Bytes) (status : JobStatus) : Prop where
  last : p.last = some status
  final : status.isTerminal
  declared : Declares body status.name

/-- **Step.**  A poller that was not cancelled stops at an explicit answer only. -/
theorem explicit_of_turn {t : Turn} (live : (p.turn c t).cancelled = false)
    (going : p.stage ≠ .exited) (exited : (p.turn c t).stage = .exited) :
    ∃ body status, t = .replied (.complete 200 body) ∧ (p.turn c t).Stops body status := by
  have hlive := live_of_turn live
  cases t with
  | cancelled => cases live
  | rested =>
      cases hstage : p.stage <;> simp [turn, advance, hlive, hstage] at exited going
  | replied reply =>
      cases hstage : p.stage with
      | exited => exact absurd hstage going
      | resting => simp [turn, advance, hlive, hstage] at exited
      | asking =>
          cases hanswer : (c.jobStatus (fun _ => reply) p.job).result with
          | error cause => simp [turn, advance, hlive, hstage, hanswer] at exited
          | ok status =>
              obtain ⟨_, body, _, rfl, hread⟩ := ControlPlaneClient.complete_of_result hanswer
              have hfinal : status.isTerminal := by
                by_contra hopen
                simp [turn, advance, hlive, hstage, hanswer, hopen] at exited
              refine ⟨body, status, rfl, ?_, hfinal, ?_⟩
              · simp [turn, advance, hlive, hstage, hanswer]
              · exact ControlPlaneClient.declares_of_readStatus hread hfinal

/-- **Run.**  So does a poller that gets one thing after the other. -/
theorem explicit_of_turns {given : List Turn} (live : (p.turns c given).cancelled = false)
    (going : p.stage ≠ .exited) (exited : (p.turns c given).stage = .exited) :
    ∃ before body after status, given = before ++ .replied (.complete 200 body) :: after ∧
      (p.turns c before).stage ≠ .exited ∧ (p.turns c given).Stops body status := by
  induction given generalizing p with
  | nil => exact absurd exited going
  | cons t more ih =>
      rw [turns_cons] at live exited ⊢
      by_cases hstops : (p.turn c t).stage = .exited
      · have hsame := turns_of_exited hstops live
        rw [hsame] at live ⊢
        obtain ⟨body, status, rfl, hexplicit⟩ := explicit_of_turn live going hstops
        exact ⟨[], body, more, status, rfl, going, hexplicit⟩
      · obtain ⟨before, body, after, status, rfl, hgoing, hexplicit⟩ := ih live hstops exited
        exact ⟨t :: before, body, after, status, rfl, hgoing, hexplicit⟩

end Poller

namespace Engine

/-! ## Operations that end well -/

theorem mem_of_lastAnswer {id : Nat} {events : List Event} {job : JobHandle}
    {answer : Except ControlPlaneError JobStatus} (h : lastAnswer id events = some (job, answer)) :
    .served id job answer ∈ events := by
  obtain ⟨event, hmem, hserved⟩ := List.mem_filterMap.mp (List.mem_of_getLast? h)
  cases event with
  | served other job' answer' =>
      simp only [Event.servedTo?, Option.ite_none_right_eq_some, Option.some.injEq,
        Prod.mk.injEq] at hserved
      obtain ⟨rfl, rfl, rfl⟩ := hserved
      exact hmem
  | _ => cases hserved

/-- Whatever was served to a poller had come to it. -/
theorem Trace.woken_of_served {r : Registry} {stimuli : List Stimulus} {e : Engine}
    {events : List Event} {id : Nat} {job : JobHandle}
    {answer : Except ControlPlaneError JobStatus} (h : Trace r stimuli e events)
    (hserved : .served id job answer ∈ events) : .woken id (.answered answer) ∈ stimuli := by
  induction h with
  | start => cases hserved
  | step before s ih =>
      rw [List.mem_append, List.mem_singleton]
      rcases List.mem_append.mp hserved with hpast | hnow
      · exact .inl (ih hpast)
      · exact .inr ((effect_step _ s).of_served hnow).1.symm

/-- A backup or a restore that is confirmed has heard that its job is done. -/
theorem Confirmed.heard_done {id : Nat} {past : List Event} {settings : Settings} {order : Order}
    {success : Success} (h : Confirmed id past settings order success)
    (polled : success ≠ .deleted) : ∃ job, .served id job (.ok .done) ∈ past := by
  cases order <;> cases success <;> try exact h.elim
  · obtain ⟨_, _, job, hlast, _⟩ := h
    exact ⟨job, mem_of_lastAnswer hlast⟩
  · obtain ⟨_, _, _, _, job, hlast, _⟩ := h
    exact ⟨job, mem_of_lastAnswer hlast⟩
  · exact absurd rfl polled

/-- So has one that ended well. -/
theorem heard_done_of_ended {r : Registry} {stimuli : List Stimulus} {id : Nat}
    {success : Success} (hkeeps : KeepsJobs ((ofRegistry r).run stimuli).2)
    (hended : .ended id (.ok success) ∈ ((ofRegistry r).run stimuli).2)
    (polled : success ≠ .deleted) :
    ∃ job, .served id job (.ok .done) ∈ ((ofRegistry r).run stimuli).2 := by
  obtain ⟨past, later, hevents⟩ := List.append_of_mem hended
  obtain ⟨first, s, rest, e, before, seen, tail, _, htrace, rfl, hstep⟩ :=
    (trace_run r stimuli).split hevents
  rw [hevents] at hkeeps ⊢
  rcases (effect_step e s).of_ended hstep with
    ⟨_, cause, hcause, _⟩ | ⟨op, signal, r', found, resume, _, _⟩
  · cases hcause
  · have hbefore : KeepsJobs before := hkeeps.of_append.1.of_append.1
    obtain ⟨_, _, _, hconfirmed⟩ := confirmed_of_ends (serving_trace htrace) (owned_trace htrace)
      (heard_trace htrace) (noted_trace htrace hbefore) (jobsKept_trace htrace hbefore) found
      (Operation.ends_of_resume resume)
    obtain ⟨job, hserved⟩ := hconfirmed.heard_done polled
    exact ⟨job, List.mem_append_left _ (List.mem_append_left seen hserved)⟩

/-- **Only an explicit `Done` confirms.**  A complete answer to a question after a job is a
refusal unless its code is that of success; then a readable text makes the status that it shows,
what shows none cannot be understood, and whatever the body, a final status is made of nothing
but its own name.  So, whatever replies it gets, a poller that was not cancelled stops at an
answer of success that declares a final status, and not before; and a backup or a restore ends
well only if an answer to a question of its own poller declares `Done`. -/
theorem only_explicit_done_confirms (c : ControlPlaneClient) :
    (∀ job transport sent code body, c.query? job = some sent →
      transport sent = .complete code body →
        AnswerOf code body (c.jobStatus transport job).result) ∧
    (∀ job pause given,
      let start := Poller.start job pause
      let p := start.turns c given
      p.hasExited → p.cancelled = false →
        ∃ before body after status, given = before ++ .replied (.complete 200 body) :: after ∧
          (start.turns c before).hasExited = false ∧ p.last = some status ∧
          status.name ∈ ["Done", "Failed", "Invalid"] ∧ Declares body status.name) ∧
    ∀ r stimuli (replies : Nat → List HttpReply),
      let events := ((ofRegistry r).run stimuli).2
      KeepsJobs events →
      (∀ id job answer, .served id job answer ∈ events →
        ∃ reply ∈ replies id, answer = (c.jobStatus (fun _ => reply) job).result) →
      ∀ id success, .ended id (.ok success) ∈ events → success ≠ .deleted →
        ∃ body, .complete 200 body ∈ replies id ∧ Declares body "Done" := by
  refine ⟨?_, ?_, ?_⟩
  · intro job transport sent code body hsent hreply
    exact ControlPlaneClient.answerOf_jobStatus hsent hreply
  · intro job pause given start p hexited hlive
    obtain ⟨before, body, after, status, hgiven, hgoing, hstops⟩ :=
      Poller.explicit_of_turns hlive (p := start) nofun (eq_of_beq hexited)
    have hname : status.name ∈ ["Done", "Failed", "Invalid"] := by
      have hfinal := hstops.final
      cases status <;> first | decide | cases hfinal
    exact ⟨before, body, after, status, hgiven, beq_eq_false_iff_ne.mpr hgoing, hstops.last, hname,
      hstops.declared⟩
  · intro r stimuli replies events hkeeps hreplies id success hended polled
    obtain ⟨job, hserved⟩ := heard_done_of_ended hkeeps hended polled
    obtain ⟨reply, hreply, hanswer⟩ := hreplies id job _ hserved
    obtain ⟨_, body, _, rfl, hread⟩ := ControlPlaneClient.complete_of_result hanswer.symm
    exact ⟨body, hreply, ControlPlaneClient.declares_of_readStatus hread rfl⟩

theorem only_explicit_done_confirms_daily :
    let c := ControlPlaneClient.ofUrl ("http://" ++ "mgmt:5656")
    let job : JobHandle := ⟨.backup, "daily-01", "pvc-1", "apps"⟩
    let done : HttpReply := .complete 200 JobStatus.done.document.render
    let p := (Poller.start job ⟨5⟩).turns c
      [.replied .lost, .rested, .replied (.complete 503 []), .rested, .replied done]
    let events := ((ofRegistry oneVolume).run (backupUnderWay ++ [.woken 0 (.answered (.ok .done)),
      .signalled 0 (.answered (.moved true)), .signalled 0 .pollerExited])).2
    (∃ sent, c.query? job = some sent ∧
      (c.jobStatus (fun _ => .complete 503 []) job).result = .error (.rejected 503 "") ∧
      (c.jobStatus (fun _ => done) job).result = .ok .done) ∧
    (p.hasExited ∧ p.cancelled = false ∧ ∃ status, p.last = some status ∧
      status.name ∈ ["Done", "Failed", "Invalid"]) ∧
    KeepsJobs events ∧
    (∀ id job answer, .served id job answer ∈ events →
      ∃ reply ∈ [done], answer = (c.jobStatus (fun _ => reply) job).result) ∧
    .ended 0 (.ok (.backedUp "pvc-1-velero-bkp-daily-01")) ∈ events ∧
    ∃ body, .complete 200 body ∈ [done] ∧ Declares body "Done" := by
  intro c job done p events
  obtain ⟨hanswers, hpollers, hruns⟩ := only_explicit_done_confirms c
  have hhost : IsHost "mgmt:5656" := by decide
  obtain ⟨sent, hsent, _⟩ := ControlPlaneClient.query?_ofUrl hhost job
  have hrefused : (c.jobStatus (fun _ => .complete 503 []) job).result =
      .error (.rejected 503 "") :=
    (hanswers job (fun _ => .complete 503 []) sent 503 [] hsent rfl).refusal (by decide)
  have hdone : ∀ asked, (c.jobStatus (fun _ => done) asked).result = .ok .done := by
    intro asked
    obtain ⟨sent, hsent, _⟩ := ControlPlaneClient.query?_ofUrl hhost asked
    have hshown := (hanswers asked (fun _ => done) sent 200 _ hsent rfl).shown rfl _
      (JobStatus.spells_document .done) (JobStatus.readable_document .done)
    exact (hshown .done).mpr (JobStatus.shows_document .done)
  have hlost : (c.jobStatus (fun _ => .lost) job).result =
      .error (.unreachable "no complete answer") :=
    ControlPlaneClient.result_jobStatus hsent
  have hp : p = ⟨job, ⟨5⟩, .exited, some .done, false⟩ := by
    simp [p, Poller.turn, Poller.start, Poller.advance, hlost, hrefused, hdone,
      JobStatus.isTerminal]
  have hkeeps : KeepsJobs events := by decide
  have hserved : ∀ id asked answer, .served id asked answer ∈ events →
      ∃ reply ∈ [done], answer = (c.jobStatus (fun _ => reply) asked).result := by
    intro id asked answer hmem
    have hwoken := (trace_run oneVolume _).woken_of_served hmem
    simp only [backupUnderWay, List.cons_append, List.nil_append, List.mem_cons,
      List.not_mem_nil, reduceCtorEq, false_or, or_false, Stimulus.woken.injEq,
      PollerSignal.answered.injEq] at hwoken
    exact ⟨done, List.mem_singleton_self _, hwoken.2.trans (hdone asked).symm⟩
  have hended : .ended 0 (.ok (.backedUp "pvc-1-velero-bkp-daily-01")) ∈ events :=
    List.mem_of_getLast? rfl
  obtain ⟨_, _, _, status, _, _, hlast, hname, _⟩ :=
    hpollers job ⟨5⟩ _ (congrArg Poller.hasExited hp) (congrArg Poller.cancelled hp)
  have hpolled : Success.backedUp "pvc-1-velero-bkp-daily-01" ≠ .deleted := by decide
  refine ⟨⟨sent, hsent, hrefused, hdone job⟩, ?_, hkeeps, hserved, hended, ?_⟩
  · exact ⟨congrArg Poller.hasExited hp, congrArg Poller.cancelled hp, status, hlast, hname⟩
  · exact hruns oneVolume _ (fun _ => [done]) hkeeps hserved 0 _ hended hpolled

end Engine

end SnapshotEngine
