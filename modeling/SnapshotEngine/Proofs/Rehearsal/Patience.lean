import SnapshotEngine.Proofs.ControlPlane.Acceptance
import SnapshotEngine.Proofs.Rehearsal.Hope

/-!
# More time spoils no success

An operation by itself runs twice, once with more time.  Until a deadline comes the two
runs are the same but for the deadlines to come, and a run in which one comes has no
success to show.

* `Cast.backend_keepsJobs`, `Site.backend_keepsJobs` — the collaborators that keep the jobs
  they are given;
* `act_relax`, `Hopeful.tick_relax` — one thing that happens is the same in both runs, unless
  a deadline has come or is next;
* `Hopeful.run_relax` — all of a run that succeeds is the same with more time;
* `order_relax` — an order that leaves more time is followed in the same way;
* `succeeds_with_more_time` — what succeeds does so with more time too, in the same way
  and at the same time.
-/

namespace SnapshotEngine

variable {σ : Type}

/-- Collaborators that follow a script accept a job as the one that was ordered. -/
theorem Cast.backend_keepsJobs : Cast.backend.KeepsJobs :=
  fun _ _ _ _ answers => (accepts_of_answer? answers).job?_eq rfl

/-- So do those of an engine that is wired up. -/
theorem Site.backend_keepsJobs : Site.backend.KeepsJobs :=
  fun _ _ _ _ answers => (accepts_of_answer? answers).job?_eq rfl

namespace World

variable {b : Backend σ} {w after : World σ} {id : Nat} {op : Operation} {schedule : Schedule}

/-! ## One thing that happens -/

variable {l : Leeway}

theorem schedules_relax (h : w.schedules.entries = [(id, schedule)]) :
    (w.relax l id).schedules.entries = [(id, schedule.relax l)] := by
  simp [relax, Table.modify, h]

theorem actPollers_relax : (w.relax l id).actPollers b = (w.actPollers b).map (relax l id) := by
  have hpollers : (w.relax l id).wakeAt = w.wakeAt := rfl
  unfold actPollers
  rw [hpollers, List.map_findSome?]
  exact congrArg (List.findSome? · _) (funext fun entry => actPoller_relax l id b w entry.1 entry.2)

/-- What happens at an instant is the same, unless a deadline has come. -/
theorem act_relax (h : w.schedules.entries = [(id, schedule)])
    (early : ¬ w.Lapses b id schedule) : (w.relax l id).act b = (w.act b).map (relax l id) := by
  rw [act_of_scheduled h, act_of_scheduled (schedules_relax h), actPollers_relax]
  rcases actOperation_relax l id b w schedule with hsame | hlapses
  · rw [hsame]
    cases w.actOperation b id schedule <;> rfl
  · exact absurd hlapses early

/-! ## Deadlines -/

/-- When nothing can happen, no deadline has come. -/
theorem Hopeful.later (h : Hopeful id op schedule w) (hact : w.act b = none) :
    w.Stalled b op schedule ∧ w.ripeSignal? id op schedule = none ∧
      (∀ t, schedule.graceAt = some t → w.now < t) ∧
      ∀ t, schedule.limitAt = some t → w.now < t := by
  rw [act_of_scheduled h.scheduled] at hact
  have hnone : w.actOperation b id schedule = none := by
    cases hoperation : w.actOperation b id schedule with
    | none => rfl
    | some found =>
        rw [hoperation] at hact
        cases hact
  have hstalled : w.Stalled b op schedule := by
    rcases answer_or_arrival_or_stalled b w op schedule with
      ⟨call, answer, site, waits, arrived, answers⟩ | ⟨call, waits, underWay, due⟩ | stalled
    · rw [actOperation_of_answer h.found waits arrived answers] at hnone
      cases hnone
    · rw [actOperation_of_arrival h.found waits underWay due] at hnone
      cases hnone
    · exact stalled
  rw [actOperation_of_stalled h.found hstalled, Option.map_eq_none_iff] at hnone
  obtain ⟨_, hgrace, hlimit, _⟩ := ripeSignal?_eq_none_iff.mp hnone
  refine ⟨hstalled, hnone, fun t ht => ?_, isDue_eq_false_iff.mp hlimit⟩
  rw [h.graced (by simp [ht]), Bool.true_and] at hgrace
  exact isDue_eq_false_iff.mp hgrace t ht

/-- When nothing but a deadline is next, the operation has waited for it longest. -/
theorem Hopeful.lapses_at (h : Hopeful id op schedule w) (hact : w.act b = none) {due : Nat}
    (hdue : w.nextDue? = some due) (hdeadline : due ∉ w.tasks schedule) :
    Lapses b id { w with now := due } schedule := by
  obtain ⟨hstalled, hunripe, _, _⟩ := h.later hact
  obtain ⟨hlater, hpending, hleast⟩ := (nextDue?_eq_some_iff h.scheduled h.unhurried).mp hdue
  have hfound : ({ w with now := due } : World σ).engine.operations.get? id = some op := h.found
  have hstill : Stalled b { w with now := due } op schedule := by
    intro call hwaits
    have hcall := hstalled call hwaits
    cases harrived : schedule.arrived with
    | true => simpa [harrived] using hcall
    | false =>
        simp only [harrived, Bool.false_eq_true, if_false] at hcall ⊢
        have hle := hleast _ (.inl (List.mem_cons_self ..)) hcall
        have hne : due ≠ schedule.arrivesAt := fun heq => hdeadline (heq ▸ List.mem_cons_self ..)
        omega
  have hripe : ∃ signal, (signal = .graceOver ∨ signal = .limitOver) ∧
      ({ w with now := due } : World σ).ripeSignal? id op schedule =
        some (.signalled id signal) := by
    have hexited := (ripeSignal?_eq_none_iff.mp hunripe).1
    unfold ripeSignal?
    rw [if_neg (by simpa using hexited)]
    by_cases hgrace : op.isSettling && isDue due schedule.graceAt
    · exact ⟨.graceOver, .inl rfl, if_pos hgrace⟩
    · refine ⟨.limitOver, .inr rfl, ?_⟩
      rw [if_neg hgrace, if_pos]
      rcases hpending with htask | heq | heq
      · exact absurd htask hdeadline
      · exact absurd (by simp [h.graced (by simp [heq]), isDue, heq]) hgrace
      · simp [isDue, heq]
  obtain ⟨signal, hsignal, hripe⟩ := hripe
  refine ⟨op, signal, hfound, hsignal, hripe, ?_⟩
  have hstep := actOperation_of_stalled hfound hstill
  rw [hripe] at hstep
  exact hstep

/-! ## The two runs -/

/-- The clock moves on to the same instant, unless a deadline is next. -/
theorem Hopeful.nextDue?_relax (h : Hopeful id op schedule w) (hact : w.act b = none) :
    (w.relax l id).nextDue? = w.nextDue? ∨
      ∃ due, w.nextDue? = some due ∧ due ∉ w.tasks schedule := by
  obtain ⟨_, _, hgrace, hlimit⟩ := h.later hact
  have hscheduled : (w.relax l id).schedules.entries = [(id, schedule.relax l)] :=
    schedules_relax h.scheduled
  -- Whatever is due with more time was due before, or a deadline was.
  have hearlier : ∀ t, (w.relax l id).Pending (schedule.relax l) t →
      t ∈ w.tasks schedule ∨ ∃ deadline ≤ t, w.now < deadline ∧ w.Pending schedule deadline := by
    rintro t (htask | ht | ht)
    · exact .inl htask
    · obtain ⟨deadline, hdeadline, rfl⟩ := Option.map_eq_some_iff.mp ht
      exact .inr ⟨deadline, Nat.le_add_right .., hgrace _ hdeadline, .inr (.inl hdeadline)⟩
    · obtain ⟨deadline, hdeadline, rfl⟩ := Option.map_eq_some_iff.mp ht
      exact .inr ⟨deadline, Nat.le_add_right .., hlimit _ hdeadline, .inr (.inr hdeadline)⟩
  cases hnext : w.nextDue? with
  | some due =>
      obtain ⟨hlater, _, hleast⟩ := (nextDue?_eq_some_iff h.scheduled h.unhurried).mp hnext
      by_cases htask : due ∈ w.tasks schedule
      · left
        refine (nextDue?_eq_some_iff hscheduled h.unhurried).mpr ⟨hlater, .inl htask, ?_⟩
        intro t ht hnow
        rcases hearlier t ht with htask | ⟨deadline, hle, hcomes, hpending⟩
        · exact hleast t (.inl htask) hnow
        · exact (hleast deadline hpending hcomes).trans hle
      · exact .inr ⟨due, rfl, htask⟩
  | none =>
      left
      cases hnext' : (w.relax l id).nextDue? with
      | none => rfl
      | some due =>
          obtain ⟨hlater, hpending, _⟩ :=
            (nextDue?_eq_some_iff hscheduled h.unhurried).mp hnext'
          rcases hearlier due hpending with htask | ⟨deadline, _, hcomes, hpending⟩
          · exact absurd hnext (nextDue?_ne_none h.scheduled h.unhurried (.inl htask) hlater)
          · exact absurd hnext (nextDue?_ne_none h.scheduled h.unhurried hpending hcomes)

/-- A deadline has come, or is next. -/
theorem Hopeful.tick_relax (h : Hopeful id op schedule w) (early : ¬ w.Lapses b id schedule)
    (htick : w.tick b = some after) :
    ((w.relax l id).tick b = some (after.relax l id) ∧
        ((∃ next later, Hopeful id next later after) ∨ Closed id after)) ∨
      Hopeful id op schedule after ∧ after.Lapses b id schedule := by
  have hact := act_relax (b := b) (l := l) h.scheduled early
  unfold World.tick at htick ⊢
  rw [hact]
  cases hnow : w.act b with
  | some found =>
      rw [hnow] at htick
      cases htick
      exact .inl ⟨rfl, h.act hnow early⟩
  | none =>
      rw [hnow] at htick
      obtain ⟨due, hdue, rfl⟩ := Option.map_eq_some_iff.mp htick
      have hopes : Hopeful id op schedule { w with now := due } :=
        ⟨h.toAlone.clock due, h.limited, h.graced, h.unjoined⟩
      rcases h.nextDue?_relax (l := l) hnow with hsame | ⟨deadline, hdeadline, hlast⟩
      · left
        refine ⟨?_, .inl ⟨op, schedule, hopes⟩⟩
        rw [hsame, hdue]
        rfl
      · cases hdue.symm.trans hdeadline
        exact .inr ⟨hopes, h.lapses_at hnow hdue hlast⟩

/-- **Run.**  An operation whose deadline has come does not succeed. -/
theorem Hopeful.not_succeeded (h : Hopeful id op schedule w) (hreached : w.engine.Reached)
    (hlapses : w.Lapses b id schedule) (n : Nat) (success : Success) (startedAt endedAt : Nat) :
    (World.iterate (tickUntilOver b id) n w).endings.get? id ≠
      some ⟨some (.ok success), startedAt, endedAt⟩ := by
  cases n with
  | zero => simp [World.iterate, h.running]
  | succ n =>
      obtain ⟨after, htick, hhopeless⟩ := h.lapses hreached hlapses
      rw [World.iterate, h.tickUntilOver_eq, htick]
      exact (hhopeless.iterate n).not_succeeded success startedAt endedAt

/-- **Run.**  An operation that succeeds does so in the same way with more time. -/
theorem Hopeful.run_relax (hb : b.KeepsJobs) (h : Hopeful id op schedule w)
    (hreached : w.engine.Reached) {n : Nat} {success : Success} {startedAt endedAt : Nat}
    (hsucceeds : (World.iterate (tickUntilOver b id) n w).endings.get? id =
      some ⟨some (.ok success), startedAt, endedAt⟩) :
    World.iterate (tickUntilOver b id) n (w.relax l id) =
      (World.iterate (tickUntilOver b id) n w).relax l id := by
  induction n generalizing w op schedule with
  | zero => rfl
  | succ n ih =>
      have early : ¬ w.Lapses b id schedule := fun hlapses =>
        h.not_succeeded hreached hlapses (n + 1) success startedAt endedAt hsucceeds
      have hrelaxed : tickUntilOver b id (w.relax l id) = (w.relax l id).tick b := by
        refine if_neg fun hover => ?_
        obtain ⟨ending, hending⟩ := areOver_iff.mp hover
        cases h.running.symm.trans hending
      cases htick : w.tick b with
      | none =>
          rw [World.iterate, h.tickUntilOver_eq, htick, h.running] at hsucceeds
          cases hsucceeds
      | some after =>
          have hrun : World.iterate (tickUntilOver b id) (n + 1) w =
              World.iterate (tickUntilOver b id) n after := by
            rw [World.iterate, h.tickUntilOver_eq, htick]
          rw [hrun] at hsucceeds ⊢
          have hafter : after.engine.Reached := (course_reached hb).tick htick hreached
          rcases h.tick_relax (l := l) early htick with ⟨htick', hopes | hclosed⟩ | ⟨hopes, hlapses⟩
          · obtain ⟨next, later, hopes⟩ := hopes
            rw [World.iterate, hrelaxed, htick']
            exact ih hopes hafter hsucceeds
          · have hclosed' : Closed id (after.relax l id) := hclosed
            rw [World.iterate, hrelaxed, htick']
            exact (iterate_of_closed hclosed' n).trans
              (congrArg (relax l id) (iterate_of_closed hclosed n).symm)
          · exact absurd hsucceeds (hopes.not_succeeded hafter hlapses n success startedAt endedAt)

/-! ## From the order on -/

/-- An order that leaves more time is followed in the same way. -/
theorem order_relax (b : Backend σ) (l : Leeway) (hschedules : w.schedules.entries = [])
    (absent : w.engine.operations.get? w.engine.next = none) (settings : Settings)
    (order : Order) :
    w.order b (settings.relax l) order none =
      (w.order b settings order none).relax l w.engine.next := by
  have hengine : w.engine.relax l w.engine.next = w.engine := by
    simp only [Engine.relax, Table.modify_eq_self absent]
  have hunscheduled : w.schedules.get? w.engine.next = none := by
    simp [Table.get?, hschedules, Table.lookupIn]
  have hsame : w.relax l w.engine.next = w := by
    simp only [relax, hengine, Table.modify_eq_self hunscheduled]
  have hstep : (w.engine.relax l w.engine.next).step (.ordered (settings.relax l) order) =
      ((w.engine.step (.ordered settings order)).1.relax l w.engine.next,
        (w.engine.step (.ordered settings order)).2) := by
    rw [hengine]
    exact w.engine.step_ordered_relax l absent settings order
  have hfeed := feed_relax l w.engine.next b w (starting w.now) hstep
  rw [hsame] at hfeed
  exact hfeed

open Engine

/-- **More time spoils no success.**  Any engine, with whatever has happened to it
before, is given an order while nothing else is scheduled, and the operation succeeds.
With the same collaborators and more time, for its transfer and confirmation or for the
report of its job, it succeeds in the same way: with the same to show, at the same time,
and leaving the collaborators as they were left before, after as many questions. -/
theorem succeeds_with_more_time (b : Backend σ) (keeps : b.KeepsJobs) (r : Registry)
    (stimuli : List Stimulus) (kept : KeepsJobs ((ofRegistry r).run stimuli).2) (site : σ)
    (now : Nat) (settings : Settings) (order : Order) (limit grace : Duration)
    (longer : settings.operationTimeout.nanos ≤ limit.nanos)
    (later : settings.confirmGrace.nanos ≤ grace.nanos) (n : Nat) (success : Success)
    (startedAt endedAt : Nat) :
    let start : World σ := { ofEngine ((ofRegistry r).run stimuli).1 site with now := now }
    let id := start.engine.next
    let run := fun settings =>
      iterate (fun w => if w.areOver [id] then none else w.tick b) n
        (start.order b settings order none)
    let more := { settings with operationTimeout := limit, confirmGrace := grace }
    (run settings).endings.get? id = some ⟨some (.ok success), startedAt, endedAt⟩ →
      (run more).endings.get? id = some ⟨some (.ok success), startedAt, endedAt⟩ ∧
        (run more).site = (run settings).site ∧
        (run more).engine.registry = (run settings).engine.registry := by
  intro start id run more hsucceeds
  have hreached : start.engine.Reached := ⟨r, stimuli, _, trace_run r stimuli, kept⟩
  have habsent := (owned_trace (trace_run r stimuli)).absent_next.1
  obtain ⟨l, hmore⟩ : ∃ l, more = settings.relax l := by
    refine ⟨⟨grace.nanos - settings.confirmGrace.nanos,
      limit.nanos - settings.operationTimeout.nanos⟩, ?_⟩
    simp only [more, Settings.relax, Nat.add_sub_cancel' longer, Nat.add_sub_cancel' later]
  have horder : start.order b more order none =
      (start.order b settings order none).relax l id := by
    rw [hmore]
    exact order_relax b l rfl habsent settings order
  have hrun : run more = (run settings).relax l id := by
    change iterate (tickUntilOver b id) n _ = (iterate (tickUntilOver b id) n _).relax l id
    rw [horder]
    rcases hopeful_order (w := start) b rfl rfl rfl settings order with
      ⟨op, schedule, hopes⟩ | hclosed
    · have hordered : (start.order b settings order none).engine.Reached := by
        rw [World.order, engine_feed]
        exact hreached.step fun _ _ _ _ hs => by cases hs
      exact hopes.run_relax keeps hordered hsucceeds
    · have hclosed' : Closed id ((start.order b settings order none).relax l id) := hclosed
      rw [iterate_of_closed hclosed, iterate_of_closed hclosed']
  rw [hrun]
  exact ⟨hsucceeds, rfl, rfl⟩

deriving instance DecidableEq for Ending

/-- A control plane that says once that a job is in progress, and then that it is done; the
transfer takes two seconds. -/
def unhurriedCast : Cast :=
  { Cast.ofDirectory (.ofClaims (Table.empty.insert "pvc-1" "apps")) with
    plane := { ScriptedPlane.empty with statuses := [.inProgress, .done] }
    transferDelay := ⟨2000000000⟩ }

/-- With a grace of four seconds the second answer, after five, is there in time; a minute
for the report of the job and two hours over all change nothing. -/
theorem succeeds_with_more_time_daily :
    let settings : Settings := { Settings.default "mover:9000" with confirmGrace := ⟨4000000000⟩ }
    let more : Settings :=
      { settings with operationTimeout := ⟨7200000000000⟩, confirmGrace := ⟨60000000000⟩ }
    let start : World Cast :=
      { ofEngine ((ofRegistry oneVolume).run []).1 unhurriedCast with now := 0 }
    let run := fun settings =>
      iterate (fun w => if w.areOver [0] then none else w.tick Cast.backend) 40
        (start.order Cast.backend settings (.backup "pvc-1" "daily-01") none)
    let confirmed : Ending :=
      ⟨some (.ok (.backedUp "pvc-1-velero-bkp-daily-01")), 0, 5000000000⟩
    Cast.backend.KeepsJobs ∧ KeepsJobs ((ofRegistry oneVolume).run []).2 ∧
      (run settings).endings.get? 0 = some confirmed ∧ (run settings).site.plane.queries = 2 ∧
      (run more).endings.get? 0 = some confirmed ∧ (run more).site.plane.queries = 2 := by
  intro settings more start run confirmed
  have hkept : KeepsJobs ((ofRegistry oneVolume).run []).2 := by decide
  have hsucceeds : (run settings).endings.get? 0 = some confirmed := by decide +kernel
  have hasked : (run settings).site.plane.queries = 2 := by decide +kernel
  obtain ⟨hmore, hsite, _⟩ := succeeds_with_more_time Cast.backend Cast.backend_keepsJobs oneVolume
    [] hkept unhurriedCast 0 settings (.backup "pvc-1" "daily-01") ⟨7200000000000⟩ ⟨60000000000⟩
    (by decide) (by decide) 40 _ _ _ hsucceeds
  exact ⟨Cast.backend_keepsJobs, hkept, hsucceeds, hasked, hmore, hsite ▸ hasked⟩

end World

end SnapshotEngine
