import SnapshotEngine.Proofs.Rehearsal.Motion

/-!
# An operation by itself

While nothing else is scheduled, one operation and its poller go on until the operation
is over.

* `Alone` — one operation is scheduled and nothing else;
* `alone_order` — so it is from the order on;
* `act_of_scheduled`, `nextDue?_eq_some_iff` — what happens next, and when;
* `tickUntilOver`, `iterate_of_closed` — what happens until the operation is over;
* `Leads`, `Leads.runUntilOver` — what comes of it after at most so many steps;
* `Alone.sets_out`, `Alone.answered` — a call arrives and is answered when it is due.
-/

namespace SnapshotEngine

variable {σ : Type}

/-- What wakes a poller reaches no operation. -/
theorem Engine.operations_step_woken (e : Engine) (id : Nat) (signal : PollerSignal) :
    (e.step (.woken id signal)).1.operations = e.operations := by
  simp only [Engine.step, Engine.wake]
  split <;> rfl

namespace World

/-- Nothing is scheduled but one operation, which is not over and has all the time it
takes, and nothing is to be woken but its poller. -/
structure Alone (id : Nat) (op : Operation) (schedule : Schedule) (w : World σ) : Prop where
  scheduled : w.schedules.entries = [(id, schedule)]
  found : w.engine.operations.get? id = some op
  running : w.endings.get? id = none
  awake : ∀ entry ∈ w.wakeAt.entries, entry.1 = id
  unhurried : schedule.abandonAt = none

variable {b : Backend σ} {w after : World σ} {id : Nat} {op : Operation} {schedule : Schedule}

/-! ## What stays true -/

/-- What a poller that is new is to be woken by. -/
theorem keys_wakePoller (h : ∀ entry ∈ w.wakeAt.entries, entry.1 = id) :
    ∀ entry ∈ (w.wakePoller b id).wakeAt.entries, entry.1 = id := by
  unfold wakePoller
  split
  · split
    · exact h
    · intro entry hmem
      rcases List.mem_cons.mp hmem with rfl | hmem
      · rfl
      · exact h entry (List.mem_filter.mp hmem).1
  · exact h

/-- A poller that does something is woken by a signal. -/
theorem exists_rouse_of_actPoller {due : Nat} (h : w.actPoller b id due = some after) :
    ∃ p site signal again, w.engine.pollers.get? id = some p ∧
      after = { w with site := site }.rouse id signal again ∧
      (p.cancelled → signal = .woken) := by
  unfold actPoller at h
  split at h
  · cases h
  rename_i p found
  split at h
  · cases h
    exact ⟨p, w.site, _, _, found, rfl, fun _ => rfl⟩
  rename_i live
  split at h
  · cases h
  split at h
  · obtain ⟨heard, _, rfl⟩ := Option.map_eq_some_iff.mp h
    exact ⟨p, heard.2, _, _, found, rfl, fun hcancelled => absurd hcancelled live⟩
  · cases h
    exact ⟨p, w.site, _, _, found, rfl, fun _ => rfl⟩
  · cases h

/-- It is to be woken again, or not. -/
theorem keys_rouse {site : σ} {signal : PollerSignal} {again : Nat}
    (h : ∀ entry ∈ w.wakeAt.entries, entry.1 = id) :
    ∀ entry ∈ ({ w with site := site }.rouse id signal again).wakeAt.entries, entry.1 = id := by
  intro entry hmem
  simp only [rouse] at hmem
  split at hmem
  · exact h entry (List.mem_filter.mp hmem).1
  · rcases List.mem_cons.mp hmem with rfl | hmem
    · rfl
    · exact h entry (List.mem_filter.mp hmem).1

/-- With only one operation scheduled it comes first, and then the pollers. -/
theorem act_of_scheduled (h : w.schedules.entries = [(id, schedule)]) :
    w.act b = (w.actOperation b id schedule <|> w.actPollers b) := by
  simp [act, actOperations, numbered, h]

theorem mem_numbered {α : Type} {t : Table Nat α} {entry : Nat × α} :
    entry ∈ numbered t ↔ entry ∈ t.entries :=
  List.mem_mergeSort

/-- Without a limit on the patience of its caller an operation is not dropped. -/
theorem signal_of_ripeSignal? (h : schedule.abandonAt = none) {stimulus : Stimulus}
    (hripe : w.ripeSignal? id op schedule = some stimulus) :
    ∃ signal, stimulus = .signalled id signal := by
  unfold ripeSignal? at hripe
  rw [h] at hripe
  split at hripe
  · cases hripe
    exact ⟨_, rfl⟩
  split at hripe
  · cases hripe
    exact ⟨_, rfl⟩
  split at hripe
  · cases hripe
    exact ⟨_, rfl⟩
  · simp [isDue] at hripe

namespace Alone

/-- An operation that waits again is still by itself. -/
theorem waits (h : Alone id op schedule w) {stimulus : Stimulus} {e : Engine}
    {events : List Event} {next : Operation} (hstep : w.engine.step stimulus = (e, events))
    (hevents : events.findSome? ending? = none) (hnext : e.operations.get? id = some next) :
    Alone id next (w.reschedule b next schedule) (w.feed b id schedule stimulus) := by
  rw [feed_of_waits hstep hevents hnext]
  refine ⟨?_, ?_, ?_, keys_wakePoller h.awake, h.unhurried⟩
  · simp [Table.insert, h.scheduled]
  · simpa using hnext
  · simpa using h.running

/-- So is one that a signal has go on. -/
theorem goesOn (h : Alone id op schedule w) {signal : Signal} {r : Registry} {next : Operation}
    (admits : w.engine.admits id signal)
    (resume : op.resume w.engine.registry signal = some (.waits r next)) :
    Alone id next (w.reschedule b next schedule) (w.feed b id schedule (.signalled id signal)) ∧
      (w.feed b id schedule (.signalled id signal)).engine = w.engine.keep id r next := by
  refine ⟨h.waits (Engine.step_goesOn h.found admits resume) (findSome?_of_waits ..)
    (Engine.get?_operations_keep_self ..), ?_⟩
  rw [feed_of_goesOn h.found admits resume, engine_wakePoller]

/-- Time that goes by leaves it by itself. -/
theorem clock (h : Alone id op schedule w) (t : Nat) : Alone id op schedule { w with now := t } :=
  ⟨h.scheduled, h.found, h.running, h.awake, h.unhurried⟩

/-- So does whatever the collaborators do. -/
theorem visit (h : Alone id op schedule w) (site : σ) :
    Alone id op schedule { w with site := site } :=
  ⟨h.scheduled, h.found, h.running, h.awake, h.unhurried⟩

/-- So does the arrival of its call. -/
theorem arrival (h : Alone id op schedule w) (site : σ) :
    Alone id op { schedule with arrived := true }
      { w with
        site := site
        schedules := w.schedules.insert id { schedule with arrived := true } } := by
  refine ⟨?_, h.found, h.running, h.awake, h.unhurried⟩
  simp [Table.insert, h.scheduled]

/-- So does a poller that does something. -/
theorem actPoller (h : Alone id op schedule w) {due : Nat}
    (hact : w.actPoller b id due = some after) : Alone id op schedule after := by
  obtain ⟨p, site, signal, again, _, rfl, _⟩ := exists_rouse_of_actPoller hact
  refine ⟨h.scheduled, ?_, h.running, keys_rouse h.awake, h.unhurried⟩
  rw [rouse, Engine.operations_step_woken]
  exact h.found

end Alone

/-! ## From the order on -/

/-- The times of an operation that is ordered now. -/
def starting (now : Nat) : Schedule where
  startedAt := now
  arrivesAt := now
  arrived := false
  graceAt := none
  limitAt := none
  abandonAt := none

/-- An operation that starts to wait is kept, and scheduled. -/
theorem order_of_waits (b : Backend σ) {settings : Settings} {order : Order} {r : Registry}
    (hstart : Operation.start w.engine.registry settings order = .waits r op) :
    w.order b settings order none =
      { w with
        engine := { w.engine with next := w.engine.next + 1 }.keep w.engine.next r op
        schedules :=
          w.schedules.insert w.engine.next (w.reschedule b op (starting w.now)) }.wakePoller b
            w.engine.next :=
  feed_of_waits (Engine.step_starts hstart) (findSome?_callEvents ..)
    (Engine.get?_operations_keep_self ..)

/-- What starts to wait while nothing else is scheduled is by itself. -/
theorem alone_order (b : Backend σ) (hschedules : w.schedules.entries = [])
    (hwake : w.wakeAt.entries = []) (hrunning : w.endings.get? w.engine.next = none)
    {settings : Settings} {order : Order} {r : Registry}
    (hstart : Operation.start w.engine.registry settings order = .waits r op) :
    Alone w.engine.next op (w.reschedule b op (starting w.now))
      (w.order b settings order none) := by
  rw [order_of_waits b hstart]
  refine ⟨?_, ?_, ?_, keys_wakePoller ?_, rfl⟩
  · simp [Table.insert, hschedules]
  · simpa using Engine.get?_operations_keep_self ..
  · simpa using hrunning
  · simp [hwake]

/-! ## What happens next, and when -/

/-- The instants at which something is due other than a deadline. -/
def tasks (w : World σ) (schedule : Schedule) : List Nat :=
  schedule.arrivesAt :: w.wakeAt.entries.map (·.2)

/-- Something is due at an instant. -/
def Pending (w : World σ) (schedule : Schedule) (t : Nat) : Prop :=
  t ∈ w.tasks schedule ∨ schedule.graceAt = some t ∨ schedule.limitAt = some t

theorem mem_instants_iff (h : w.schedules.entries = [(id, schedule)])
    (unhurried : schedule.abandonAt = none) {t : Nat} :
    t ∈ (w.schedules.entries.flatMap fun entry => entry.2.instants) ++
      w.wakeAt.entries.map (·.2) ↔ w.Pending schedule t := by
  simp only [h, Schedule.instants, unhurried, Pending, tasks, List.flatMap_cons,
    List.flatMap_nil, List.append_nil, List.mem_append, List.mem_cons, List.mem_filterMap, id_eq]
  constructor
  · rintro ((rfl | ⟨deadline, hdeadline, rfl⟩) | hwake)
    · exact .inl (.inl rfl)
    · simp only [List.not_mem_nil, or_false] at hdeadline
      rcases hdeadline with hgrace | hlimit | hnever
      · exact .inr (.inl hgrace.symm)
      · exact .inr (.inr hlimit.symm)
      · cases hnever
    · exact .inl (.inr hwake)
  · rintro ((rfl | hwake) | hgrace | hlimit)
    · exact .inl (.inl rfl)
    · exact .inr hwake
    · exact .inl (.inr ⟨some t, .inl hgrace.symm, rfl⟩)
    · exact .inl (.inr ⟨some t, .inr (.inl hlimit.symm), rfl⟩)

/-- The clock moves to the first instant at which something is due. -/
theorem nextDue?_eq_some_iff (h : w.schedules.entries = [(id, schedule)])
    (unhurried : schedule.abandonAt = none) {due : Nat} :
    w.nextDue? = some due ↔
      w.now < due ∧ w.Pending schedule due ∧ ∀ t, w.Pending schedule t → w.now < t → due ≤ t := by
  unfold nextDue?
  rw [List.min?_eq_some_iff]
  simp only [List.mem_filter, mem_instants_iff h unhurried, decide_eq_true_eq]
  constructor
  · rintro ⟨⟨hpending, hlater⟩, hleast⟩
    exact ⟨hlater, hpending, fun t ht hnow => hleast t ⟨ht, hnow⟩⟩
  · rintro ⟨hlater, hpending, hleast⟩
    exact ⟨⟨hpending, hlater⟩, fun t ht => hleast t ht.1 ht.2⟩

/-- It moves if anything is still due. -/
theorem nextDue?_ne_none (h : w.schedules.entries = [(id, schedule)])
    (unhurried : schedule.abandonAt = none) {t : Nat} (hpending : w.Pending schedule t)
    (hlater : w.now < t) : w.nextDue? ≠ none := by
  unfold nextDue?
  rw [Ne, List.min?_eq_none_iff, List.filter_eq_nil_iff]
  exact fun hnone => hnone t ((mem_instants_iff h unhurried).mpr hpending) (by simpa using hlater)

theorem isDue_eq_false_iff {now : Nat} {deadline : Option Nat} :
    isDue now deadline = false ↔ ∀ t, deadline = some t → now < t := by
  cases deadline <;> simp [isDue]

theorem ripeSignal?_eq_none_iff :
    w.ripeSignal? id op schedule = none ↔
      ((op.isSettling || op.isJoining) && w.engine.pollerExited id) = false ∧
        (op.isSettling && isDue w.now schedule.graceAt) = false ∧
        isDue w.now schedule.limitAt = false ∧ isDue w.now schedule.abandonAt = false := by
  unfold ripeSignal?
  by_cases hexited : (op.isSettling || op.isJoining) && w.engine.pollerExited id
  · simp [hexited]
  by_cases hgrace : op.isSettling && isDue w.now schedule.graceAt
  · simp [hgrace, hexited]
  by_cases hlimit : isDue w.now schedule.limitAt
  · simp [hlimit, hexited, hgrace]
  · simp [hlimit, hexited, hgrace]

/-! ## Until it is over -/

/-- An operation is over. -/
def Closed (id : Nat) (w : World σ) : Prop := ∃ ending, w.endings.get? id = some ending

/-- What happens until an operation is over. -/
def tickUntilOver (b : Backend σ) (id : Nat) (w : World σ) : Option (World σ) :=
  if w.areOver [id] then none else w.tick b

theorem areOver_iff : w.areOver [id] ↔ Closed id w := by
  simp [areOver, Table.contains_iff, Closed]

theorem Alone.tickUntilOver_eq (h : Alone id op schedule w) : tickUntilOver b id w = w.tick b := by
  refine if_neg fun hover => ?_
  obtain ⟨ending, hending⟩ := areOver_iff.mp hover
  rw [h.running] at hending
  cases hending

/-- Nothing happens any more once the operation is over. -/
theorem iterate_of_closed (h : Closed id w) (n : Nat) :
    World.iterate (tickUntilOver b id) n w = w := by
  cases n with
  | zero => rfl
  | succ n => rw [World.iterate, tickUntilOver, if_pos (areOver_iff.mpr h)]

/-! ## So many steps -/

/-- What a world comes to after at most so many steps, with one operation not over before. -/
def Leads (b : Backend σ) (id k : Nat) (w after : World σ) : Prop :=
  ∃ m ≤ k, ∀ n, iterate (tickUntilOver b id) (m + n) w = iterate (tickUntilOver b id) n after

theorem Leads.trans {k m : Nat} {later : World σ} (h : Leads b id k w after)
    (h' : Leads b id m after later) : Leads b id (k + m) w later := by
  obtain ⟨i, hi, hfirst⟩ := h
  obtain ⟨j, hj, hthen⟩ := h'
  refine ⟨i + j, Nat.add_le_add hi hj, fun n => ?_⟩
  rw [Nat.add_assoc, hfirst, hthen]

theorem Alone.leads (h : Alone id op schedule w) (htick : w.tick b = some after) :
    Leads b id 1 w after := by
  refine ⟨1, Nat.le_refl 1, fun n => ?_⟩
  rw [Nat.add_comm, iterate, h.tickUntilOver_eq, htick]

theorem Leads.mono {k m : Nat} (h : Leads b id k w after) (le : k ≤ m) : Leads b id m w after :=
  ⟨h.choose, h.choose_spec.1.trans le, h.choose_spec.2⟩

/-- A run until an operation is over stops when it is. -/
theorem Leads.runUntilOver {k : Nat} (h : Leads b id k w after) (closed : Closed id after)
    (few : k ≤ plenty) : w.runUntilOver b [id] = after := by
  obtain ⟨m, hm, hrun⟩ := h
  have hplenty : m + (plenty - m) = plenty := Nat.add_sub_cancel' (hm.trans few)
  have hstop := (hrun (plenty - m)).trans (iterate_of_closed closed _)
  rw [hplenty] at hstop
  exact hstop

/-! ## A call -/

/-- An operation that waits for a call is neither settling nor joining. -/
theorem not_settling_of_call? {call : Call} (waits : op.call? = some call) :
    (op.isSettling || op.isJoining) = false := by
  unfold Operation.isSettling Operation.isJoining
  cases hc : op.confirmation? with
  | none => rfl
  | some c =>
      rw [Operation.call?_of_confirmation hc] at waits
      simp [(Confirmation.of_call? waits).1]

/-- When nothing else is due before, the clock moves to the arrival of a call. -/
theorem Alone.sets_out (h : Alone id op schedule w) {call : Call} (waits : op.call? = some call)
    (underWay : schedule.arrived = false) (ahead : w.now ≤ schedule.arrivesAt)
    (asleep : w.now < schedule.arrivesAt → w.wakeAt.entries = [])
    (ungraced : schedule.graceAt = none)
    (early : ∀ t, schedule.limitAt = some t → schedule.arrivesAt < t) :
    Leads b id 1 w { w with now := schedule.arrivesAt } := by
  rcases Nat.eq_or_lt_of_le ahead with hnow | hlater
  · rw [← hnow]
    exact ⟨0, Nat.zero_le 1, fun n => by rw [Nat.zero_add]⟩
  · have hstalled : w.Stalled b op schedule := fun other hother => by
      rw [underWay]
      exact hlater
    have hlimit : isDue w.now schedule.limitAt = false :=
      isDue_eq_false_iff.mpr fun t ht => hlater.trans (early t ht)
    have hunripe : w.ripeSignal? id op schedule = none := by
      rw [ripeSignal?_eq_none_iff, not_settling_of_call? waits, ungraced, h.unhurried, hlimit]
      simp [isDue]
    have hact : w.act b = none := by
      rw [act_of_scheduled h.scheduled, actOperation_of_stalled h.found hstalled, hunripe]
      simp [actPollers, numbered, asleep hlater]
    have hdue : w.nextDue? = some schedule.arrivesAt := by
      refine (nextDue?_eq_some_iff h.scheduled h.unhurried).mpr
        ⟨hlater, .inl (List.mem_cons_self ..), ?_⟩
      rintro t (htask | hgrace | hlimited) hnow
      · simp only [tasks, asleep hlater, List.map_nil, List.mem_singleton] at htask
        exact Nat.le_of_eq htask.symm
      · rw [ungraced] at hgrace
        cases hgrace
      · exact Nat.le_of_lt (early t hlimited)
    refine h.leads ?_
    rw [tick, hact, hdue]
    rfl

/-- A call that is under way arrives and is answered when it is due, if nothing else is
due before. -/
theorem Alone.answered (h : Alone id op schedule w) {call : Call} (waits : op.call? = some call)
    (underWay : schedule.arrived = false) (ahead : w.now ≤ schedule.arrivesAt)
    (asleep : w.now < schedule.arrivesAt → w.wakeAt.entries = [])
    (ungraced : schedule.graceAt = none)
    (early : ∀ t, schedule.limitAt = some t → schedule.arrivesAt < t) {answer : Answer} {site : σ}
    (answers : b.answer? (b.arrive w.site call) call = some (answer, site)) :
    ∃ before, Alone id op { schedule with arrived := true } before ∧
      before.engine = w.engine ∧ before.site = site ∧ before.now = schedule.arrivesAt ∧
      before.wakeAt = w.wakeAt ∧
      Leads b id 3 w (before.feed b id { schedule with arrived := true }
        (.signalled id (.answered answer))) := by
  let before : World σ :=
    { w with
      now := schedule.arrivesAt
      site := site
      schedules := w.schedules.insert id { schedule with arrived := true } }
  have hwaiting := h.clock schedule.arrivesAt
  have harrived := hwaiting.arrival (b.arrive w.site call)
  have hsetsOut := h.sets_out (b := b) waits underWay ahead asleep ungraced early
  have harrives : Leads b id 1 { w with now := schedule.arrivesAt }
      { before with site := b.arrive w.site call } := by
    refine hwaiting.leads ?_
    rw [tick, act_of_scheduled hwaiting.scheduled,
      actOperation_of_arrival hwaiting.found waits underWay (Nat.le_refl _)]
    rfl
  have hanswered : Leads b id 1 { before with site := b.arrive w.site call }
      (before.feed b id { schedule with arrived := true }
        (.signalled id (.answered answer))) := by
    refine harrived.leads ?_
    rw [tick, act_of_scheduled harrived.scheduled,
      actOperation_of_answer harrived.found waits rfl answers]
    rfl
  exact ⟨before, harrived.visit site, rfl, rfl, rfl, rfl,
    (hsetsOut.trans harrives).trans hanswered⟩

end World

end SnapshotEngine
