import SnapshotEngine.Proofs.Rehearsal.Motion

/-!
# Being given more time

An operation may be given more time for the report of its job, and more time over all.
Until one of its deadlines comes it does the same as without.

* `Leeway`, `World.relax` — a world in which one operation has more time;
* `Operation.resume_relax`, `Engine.step_signalled_relax` — whatever reaches the operation
  but its limit has the same effect;
* `World.feed_relax` — and is followed up in the same way;
* `World.Lapses`, `World.actOperation_relax` — the operation does the same, unless one of
  its deadlines has come.
-/

namespace SnapshotEngine

/-- More time for an operation. -/
structure Leeway where
  /-- More time for its job to report its end. -/
  grace : Nat
  /-- More time for its transfer and confirmation. -/
  limit : Nat

/-- Settings with more time. -/
def Settings.relax (l : Leeway) (s : Settings) : Settings :=
  { s with
    operationTimeout := ⟨s.operationTimeout.nanos + l.limit⟩
    confirmGrace := ⟨s.confirmGrace.nanos + l.grace⟩ }

/-- The times of an operation with more time. -/
def Schedule.relax (l : Leeway) (s : Schedule) : Schedule :=
  { s with
    graceAt := s.graceAt.map (· + l.grace)
    limitAt := s.limitAt.map (· + l.limit) }

/-- A backup with more time. -/
def Backup.relax (l : Leeway) (b : Backup) : Backup := { b with settings := b.settings.relax l }

/-- A restore with more time. -/
def Restore.relax (l : Leeway) (t : Restore) : Restore := { t with settings := t.settings.relax l }

/-- A removal with more time. -/
def Removal.relax (l : Leeway) (d : Removal) : Removal := { d with settings := d.settings.relax l }

/-- Whatever reaches a backup but the limit has the same effect. -/
theorem Backup.resume_relax (l : Leeway) (r : Registry) (b : Backup) {signal : Signal}
    (h : signal ≠ .limitOver) :
    Backup.resume r (b.relax l) signal =
      (Backup.resume r b signal).map (·.map (Backup.relax l)) := by
  simp only [Backup.resume, Backup.relax]
  split
  · rfl
  · rfl
  · rfl
  · rfl
  · rename_i signal _ _ c _
    cases hadvance : c.advance signal with
    | none => rfl
    | some verdict =>
        cases verdict with
        | continues next => rfl
        | failed cause => rfl
        | timedOut => exact absurd (Confirmation.advance_eq_timedOut hadvance) h
        | settled =>
            simp only [Option.map_some, Backup.conclude]
            split <;> rfl
  · rfl

/-- Whatever reaches a restore but the limit has the same effect. -/
theorem Restore.resume_relax (l : Leeway) (r : Registry) (t : Restore) {signal : Signal}
    (h : signal ≠ .limitOver) :
    Restore.resume r (t.relax l) signal =
      (Restore.resume r t signal).map (·.map (Restore.relax l)) := by
  simp only [Restore.resume, Restore.relax]
  split
  · rfl
  · simp only [Option.map_some, Restore.target]
    split
    · rfl
    split
    · rfl
    split
    · rfl
    split <;> rfl
  · rfl
  · rfl
  · rename_i signal _ _ target c _
    cases hadvance : c.advance signal with
    | none => rfl
    | some verdict =>
        cases verdict with
        | continues next => rfl
        | failed cause => rfl
        | timedOut => exact absurd (Confirmation.advance_eq_timedOut hadvance) h
        | settled =>
            simp only [Option.map_some, Restore.conclude]
            split <;> rfl
  · rfl

/-- A removal has no deadline. -/
theorem Removal.resume_relax (l : Leeway) (r : Registry) (d : Removal) (signal : Signal) :
    Removal.resume r (d.relax l) signal =
      (Removal.resume r d signal).map (·.map (Removal.relax l)) := by
  simp only [Removal.resume, Removal.relax]
  split
  · split
    · simp only [Removal.retract]
      split <;> rfl
    · simp only [Removal.retract]
      split <;> rfl
    · rfl
  · split
    · rfl
    · split <;> rfl
  · split <;> rfl
  · rfl

namespace Operation

/-- An operation with more time. -/
def relax (l : Leeway) : Operation → Operation
  | .backup state => .backup (state.relax l)
  | .restore state => .restore (state.relax l)
  | .removal state => .removal (state.relax l)

variable (l : Leeway) (op : Operation)

@[simp] theorem settings_relax : (op.relax l).settings = op.settings.relax l := by
  cases op <;> rfl

@[simp] theorem call?_relax : (op.relax l).call? = op.call? := by
  cases op <;> rfl

@[simp] theorem marker?_relax : (op.relax l).marker? = op.marker? := by
  cases op <;> rfl

@[simp] theorem confirmation?_relax : (op.relax l).confirmation? = op.confirmation? := by
  cases op <;> rfl

@[simp] theorem isSettling_relax : (op.relax l).isSettling = op.isSettling := by
  unfold isSettling
  rw [confirmation?_relax]

@[simp] theorem isJoining_relax : (op.relax l).isJoining = op.isJoining := by
  unfold isJoining
  rw [confirmation?_relax]

/-- With more time an operation starts in the same way. -/
theorem start_relax (r : Registry) (settings : Settings) (order : Order) :
    start r (settings.relax l) order = (start r settings order).map (relax l) := by
  cases order with
  | backup volumeId backupName =>
      simp only [start, Backup.start]
      split
      · rfl
      split
      · rfl
      split
      · rfl
      split <;> rfl
  | restore snapshotId kind =>
      simp only [start, Restore.start]
      split
      · rfl
      split <;> rfl
  | removal snapshotId =>
      simp only [start, Removal.start, Removal.retract]
      split
      · split <;> rfl
      split <;> rfl

/-- Whatever reaches an operation but the limit has the same effect. -/
theorem resume_relax (r : Registry) {signal : Signal} (h : signal ≠ .limitOver) :
    (op.relax l).resume r signal = (op.resume r signal).map (·.map (relax l)) := by
  cases op with
  | backup b =>
      have hresume := Backup.resume_relax l r b h
      simp only [relax, resume, hresume, Option.map_map]
      cases Backup.resume r b signal with
      | none => rfl
      | some p => cases p <;> rfl
  | restore t =>
      have hresume := Restore.resume_relax l r t h
      simp only [relax, resume, hresume, Option.map_map]
      cases Restore.resume r t signal with
      | none => rfl
      | some p => cases p <;> rfl
  | removal d =>
      have hresume := Removal.resume_relax l r d signal
      simp only [relax, resume, hresume, Option.map_map]
      cases Removal.resume r d signal with
      | none => rfl
      | some p => cases p <;> rfl

end Operation

namespace Engine

/-- An engine in which one operation has more time. -/
def relax (l : Leeway) (id : Nat) (e : Engine) : Engine :=
  { e with operations := e.operations.modify id (Operation.relax l) }

variable (l : Leeway) (id : Nat) (e : Engine)

theorem get?_operations_relax :
    (e.relax l id).operations.get? id = (e.operations.get? id).map (Operation.relax l) :=
  (Table.get?_modify ..).trans (if_pos rfl)

theorem keep_relax (r : Registry) (op : Operation) :
    (e.relax l id).keep id r (op.relax l) = (e.keep id r op).relax l id := by
  simp only [keep, tendPoller, relax, Operation.confirmation?_relax, Operation.settings_relax,
    Table.insert_modify]
  cases op.confirmation? with
  | none => rfl
  | some c => cases hstage : c.stage <;> simp only [hstage] <;> rfl

theorem remove_relax (op : Operation) :
    (e.relax l id).remove id (op.relax l) = (e.remove id op).relax l id := by
  have hgone : (e.operations.erase id).modify id (Operation.relax l) = e.operations.erase id :=
    Table.modify_eq_self ((Table.get?_erase ..).trans (if_pos rfl)) _
  simp only [remove, relax, cancelPoller, Operation.marker?_relax, Table.erase_modify, hgone]

/-- An order that leaves more time. -/
theorem step_ordered_relax (absent : e.operations.get? e.next = none) (settings : Settings)
    (order : Order) :
    e.step (.ordered (settings.relax l) order) =
      ((e.step (.ordered settings order)).1.relax l e.next,
        (e.step (.ordered settings order)).2) := by
  have hsame : e.operations.modify e.next (Operation.relax l) = e.operations :=
    Table.modify_eq_self absent _
  simp only [step, Engine.order, Operation.start_relax]
  cases Operation.start e.registry settings order with
  | ends r outcome => simp only [Progress.map, relax, hsame]
  | waits r op =>
      have hkeep := keep_relax l e.next { e with next := e.next + 1 } r op
      have hbefore : ({ e with next := e.next + 1 } : Engine).relax l e.next =
          { e with next := e.next + 1 } := by simp only [relax, hsame]
      rw [hbefore] at hkeep
      simp only [Progress.map, callEvents, Operation.call?_relax, hkeep]

/-- Until the limit comes more time makes no difference to an operation. -/
theorem step_signalled_relax {signal : Signal} (h : signal ≠ .limitOver) :
    (e.relax l id).step (.signalled id signal) =
      ((e.step (.signalled id signal)).1.relax l id, (e.step (.signalled id signal)).2) := by
  have hadmits : (e.relax l id).admits id signal = e.admits id signal := by
    cases signal <;> rfl
  have hanswers : ∀ op : Operation, answerEvents id (op.relax l) signal =
      answerEvents id op signal := fun op => by
    cases signal <;> simp only [answerEvents, Operation.call?_relax]
  simp only [step, Engine.signal, get?_operations_relax]
  cases e.operations.get? id with
  | none => rfl
  | some op =>
      simp only [Option.map_some, hadmits, hanswers]
      by_cases hadmitted : e.admits id signal
      · have hregistry : (e.relax l id).registry = e.registry := rfl
        rw [if_pos hadmitted, if_pos hadmitted, hregistry, Operation.resume_relax l op _ h]
        cases op.resume e.registry signal with
        | none => rfl
        | some p =>
            cases p with
            | waits r next =>
                simp only [Option.map_some, Progress.map, keep_relax, callEvents,
                  Operation.call?_relax]
            | ends r outcome =>
                have hremove := remove_relax l id { e with registry := r } op
                exact congrArg (·, _) hremove
      · rw [if_neg hadmitted, if_neg hadmitted]

/-- Nor does it when nobody waits for the operation any more. -/
theorem step_dropped_relax :
    (e.relax l id).step (.dropped id) =
      ((e.step (.dropped id)).1.relax l id, (e.step (.dropped id)).2) := by
  simp only [step, drop, get?_operations_relax]
  cases e.operations.get? id with
  | none => rfl
  | some op => simp only [Option.map_some, remove_relax]

/-- Nor does it to any poller. -/
theorem step_woken_relax (k : Nat) (signal : PollerSignal) :
    (e.relax l id).step (.woken k signal) =
      ((e.step (.woken k signal)).1.relax l id, (e.step (.woken k signal)).2) := by
  have hpollers : (e.relax l id).pollers = e.pollers := rfl
  simp only [step, wake, hpollers]
  cases e.pollers.get? k <;> rfl

end Engine

namespace World

variable {σ : Type}

/-- A world in which one operation has more time. -/
def relax (l : Leeway) (id : Nat) (w : World σ) : World σ :=
  { w with
    engine := w.engine.relax l id
    schedules := w.schedules.modify id (Schedule.relax l) }

variable (l : Leeway) (id : Nat) (b : Backend σ) (w : World σ)

theorem reschedule_relax (op : Operation) (schedule : Schedule) :
    (w.relax l id).reschedule b (op.relax l) (schedule.relax l) =
      (w.reschedule b op schedule).relax l := by
  have hlimit : (schedule.limitAt.map (· + l.limit) <|>
      op.confirmation?.map fun _ => w.now + (op.settings.relax l).operationTimeout.nanos) =
      (schedule.limitAt <|>
        op.confirmation?.map fun _ => w.now + op.settings.operationTimeout.nanos).map
          (· + l.limit) := by
    cases schedule.limitAt with
    | some t => rfl
    | none => cases op.confirmation? <;> simp [Settings.relax, Nat.add_assoc]
  have hgrace : (schedule.graceAt.map (· + l.grace) <|>
      if op.isSettling then some (w.now + (op.settings.relax l).confirmGrace.nanos) else none) =
      (schedule.graceAt <|>
        if op.isSettling then some (w.now + op.settings.confirmGrace.nanos) else none).map
          (· + l.grace) := by
    cases schedule.graceAt with
    | some t => rfl
    | none => cases op.isSettling <;> simp [Settings.relax, Nat.add_assoc]
  simp only [reschedule, Operation.call?_relax, Operation.confirmation?_relax,
    Operation.isSettling_relax, Operation.settings_relax, Schedule.relax, relax, hlimit, hgrace]

theorem wakePoller_relax : (w.relax l id).wakePoller b id = (w.wakePoller b id).relax l id := by
  have hpollers : (w.relax l id).engine.pollers = w.engine.pollers := rfl
  have hwake : (w.relax l id).wakeAt = w.wakeAt := rfl
  unfold wakePoller
  rw [hpollers, hwake]
  split
  · split <;> rfl
  · rfl

theorem follow_relax (schedule : Schedule) (events : List Event) :
    (w.relax l id).follow b id (schedule.relax l) events =
      (w.follow b id schedule events).relax l id := by
  have hgone : (w.schedules.erase id).modify id (Schedule.relax l) = w.schedules.erase id :=
    Table.modify_eq_self ((Table.get?_erase ..).trans (if_pos rfl)) _
  have hfound : (w.relax l id).engine.operations.get? id =
      (w.engine.operations.get? id).map (Operation.relax l) := w.engine.get?_operations_relax l id
  unfold follow
  cases events.findSome? ending? with
  | some outcome => simp only [close, relax, Table.erase_modify, hgone, Schedule.relax]
  | none =>
      simp only [hfound]
      cases w.engine.operations.get? id with
      | none => rfl
      | some op =>
          simp only [Option.map_some, reschedule_relax]
          rw [← wakePoller_relax]
          simp only [relax, Table.insert_modify]

/-- What reaches the operation with the same effect is followed up in the same way. -/
theorem feed_relax {stimulus stimulus' : Stimulus} (schedule : Schedule)
    (h : (w.engine.relax l id).step stimulus' =
      ((w.engine.step stimulus).1.relax l id, (w.engine.step stimulus).2)) :
    (w.relax l id).feed b id (schedule.relax l) stimulus' =
      (w.feed b id schedule stimulus).relax l id := by
  have hengine : (w.relax l id).engine = w.engine.relax l id := rfl
  unfold feed
  rw [hengine, h]
  exact follow_relax l id b { w with engine := (w.engine.step stimulus).1 } schedule _

/-- A poller does the same. -/
theorem actPoller_relax (k due : Nat) :
    (w.relax l id).actPoller b k due = (w.actPoller b k due).map (relax l id) := by
  have hrouse : ∀ (site : σ) signal again,
      ({ w.relax l id with site := site } : World σ).rouse k signal again =
        (({ w with site := site } : World σ).rouse k signal again).relax l id := by
    intro site signal again
    have hstep : (w.engine.relax l id).step (.woken k signal) = _ :=
      w.engine.step_woken_relax l id k signal
    simp only [rouse, relax, hstep]
    rfl
  have hpollers : (w.relax l id).engine.pollers = w.engine.pollers := rfl
  have hnow : (w.relax l id).now = w.now := rfl
  have hsite : (w.relax l id).site = w.site := rfl
  unfold actPoller
  rw [hpollers, hnow, hsite]
  cases w.engine.pollers.get? k with
  | none => rfl
  | some p =>
      dsimp only
      by_cases hcancelled : p.cancelled
      · rw [if_pos hcancelled, if_pos hcancelled]
        exact congrArg some (hrouse w.site .woken 0)
      rw [if_neg hcancelled, if_neg hcancelled]
      by_cases hdue : w.now < due
      · rw [if_pos hdue, if_pos hdue]
        rfl
      rw [if_neg hdue, if_neg hdue]
      cases p.stage with
      | exited => rfl
      | resting => exact congrArg some (hrouse w.site .woken _)
      | asking =>
          cases b.ask? w.site p.job with
          | none => rfl
          | some heard => exact congrArg some (hrouse heard.2 heard.1 p.pause.nanos)

/-- A deadline has come that an operation has been waiting for longest. -/
def Lapses (b : Backend σ) (id : Nat) (w : World σ) (schedule : Schedule) : Prop :=
  ∃ op signal, w.engine.operations.get? id = some op ∧ (signal = .graceOver ∨ signal = .limitOver) ∧
    w.ripeSignal? id op schedule = some (.signalled id signal) ∧
      w.actOperation b id schedule = some (w.feed b id schedule (.signalled id signal))

/-- A deadline that has not come does not come earlier. -/
theorem isDue_map_add {now : Nat} {t : Option Nat} {d : Nat} (h : isDue now t = false) :
    isDue now (t.map (· + d)) = false := by
  cases t with
  | none => rfl
  | some t =>
      simp only [isDue, Option.map_some, decide_eq_false_iff_not, Nat.not_le] at h ⊢
      omega

/-- Unless a deadline has come, there is the same reason to go on. -/
theorem ripeSignal?_relax (op : Operation) (schedule : Schedule) :
    (w.relax l id).ripeSignal? id (op.relax l) (schedule.relax l) = w.ripeSignal? id op schedule ∨
      ∃ signal, (signal = .graceOver ∨ signal = .limitOver) ∧
        w.ripeSignal? id op schedule = some (.signalled id signal) := by
  have hexited : (w.relax l id).engine.pollerExited id = w.engine.pollerExited id := rfl
  have hnow : (w.relax l id).now = w.now := rfl
  unfold ripeSignal?
  rw [Operation.isSettling_relax, Operation.isJoining_relax, hexited, hnow]
  by_cases hstopped : (op.isSettling || op.isJoining) && w.engine.pollerExited id
  · exact .inl (by rw [if_pos hstopped, if_pos hstopped])
  rw [if_neg hstopped, if_neg hstopped]
  by_cases hgrace : op.isSettling && isDue w.now schedule.graceAt
  · exact .inr ⟨.graceOver, .inl rfl, if_pos hgrace⟩
  rw [if_neg hgrace]
  by_cases hlimit : isDue w.now schedule.limitAt
  · exact .inr ⟨.limitOver, .inr rfl, if_pos hlimit⟩
  rw [if_neg hlimit]
  left
  have hlater : isDue w.now (schedule.relax l).limitAt = false :=
    isDue_map_add (by simpa using hlimit)
  have hgraced : (op.isSettling && isDue w.now (schedule.relax l).graceAt) = false := by
    cases hsettling : op.isSettling with
    | false => rfl
    | true =>
        rw [hsettling, Bool.true_and] at hgrace
        exact isDue_map_add (by simpa using hgrace)
  rw [if_neg (by simp [hgraced]), if_neg (by simp [hlater])]
  rfl

/-- Unless a deadline has come, the operation goes on for the same reason. -/
theorem map_feed_relax (op : Operation) (schedule : Schedule) :
    ((w.relax l id).ripeSignal? id (op.relax l) (schedule.relax l)).map
        ((w.relax l id).feed b id (schedule.relax l)) =
        ((w.ripeSignal? id op schedule).map (w.feed b id schedule)).map (relax l id) ∨
      ∃ signal, (signal = .graceOver ∨ signal = .limitOver) ∧
        w.ripeSignal? id op schedule = some (.signalled id signal) := by
  rcases ripeSignal?_relax l id w op schedule with hsame | hdeadline
  · rw [hsame]
    cases hripe : w.ripeSignal? id op schedule with
    | none => exact .inl rfl
    | some stimulus =>
        rcases of_ripeSignal? hripe with rfl | ⟨signal, rfl, _⟩
        · exact .inl (congrArg some
            (feed_relax l id b w schedule (w.engine.step_dropped_relax l id)))
        · by_cases hlimit : signal = .limitOver
          · exact .inr ⟨signal, .inr hlimit, rfl⟩
          · exact .inl (congrArg some
              (feed_relax l id b w schedule (w.engine.step_signalled_relax l id hlimit)))
  · exact .inr hdeadline

/-- **One step of the operation.**  It does the same, unless a deadline has come. -/
theorem actOperation_relax (schedule : Schedule) :
    (w.relax l id).actOperation b id (schedule.relax l) =
        (w.actOperation b id schedule).map (relax l id) ∨ w.Lapses b id schedule := by
  have hget : (w.relax l id).engine.operations.get? id =
      (w.engine.operations.get? id).map (Operation.relax l) := w.engine.get?_operations_relax l id
  cases hfound : w.engine.operations.get? id with
  | none => exact .inl (by simp [actOperation, hget, hfound])
  | some op =>
      have hfound' : (w.relax l id).engine.operations.get? id = some (op.relax l) := by
        rw [hget, hfound]
        rfl
      have hcall := op.call?_relax l
      rcases answer_or_arrival_or_stalled b w op schedule with
        ⟨call, answer, site, waits, arrived, answers⟩ | ⟨call, waits, underWay, due⟩ | stalled
      · have harrived : (schedule.relax l).arrived := arrived
        have hother : Signal.answered answer ≠ .limitOver := fun h => by cases h
        have hfeed := feed_relax l id b { w with site := site } schedule
          (w.engine.step_signalled_relax l id hother)
        left
        rw [actOperation_of_answer hfound waits arrived answers,
          actOperation_of_answer hfound' (hcall.trans waits) harrived answers]
        exact congrArg some hfeed
      · have hinsert : (w.schedules.modify id (Schedule.relax l)).insert id
            { schedule.relax l with arrived := true } =
            (w.schedules.insert id { schedule with arrived := true }).modify id
              (Schedule.relax l) :=
          Table.insert_modify w.schedules id (Schedule.relax l) { schedule with arrived := true }
        have hunderWay : (schedule.relax l).arrived = false := underWay
        left
        rw [actOperation_of_arrival hfound waits underWay due,
          actOperation_of_arrival hfound' (hcall.trans waits) hunderWay due]
        simp only [relax, Option.map_some, hinsert]
      · have stalled' : (w.relax l id).Stalled b (op.relax l) (schedule.relax l) :=
          fun call hwaits => stalled call (hcall.symm.trans hwaits)
        rw [actOperation_of_stalled hfound stalled, actOperation_of_stalled hfound' stalled']
        rcases map_feed_relax l id b w op schedule with hsame | ⟨signal, hdeadline, hripe⟩
        · exact .inl hsame
        · refine .inr ⟨op, signal, hfound, hdeadline, hripe, ?_⟩
          rw [actOperation_of_stalled hfound stalled, hripe]
          rfl

end World

end SnapshotEngine
