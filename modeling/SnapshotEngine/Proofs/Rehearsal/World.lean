import SnapshotEngine.Rehearsal.World

/-!
# What happens in time

Whatever happens at one instant is one step of the engine, or a call that arrives.
What the clock and the deadlines add is when it happens, and in which order.

* `answer_or_arrival_or_stalled` — what an operation does at an instant, case by case;
* `Effect`, `effect_act` — what can happen at an instant;
* `Course` — a relation that holds from each state to the next, and so over any
  time.
-/

namespace SnapshotEngine.World

variable {σ : Type}

/-! ## The bookkeeping -/

@[simp] theorem engine_wakePoller (b : Backend σ) (w : World σ) (id : Nat) :
    (w.wakePoller b id).engine = w.engine := by
  unfold wakePoller
  split
  · split <;> rfl
  · rfl

@[simp] theorem site_wakePoller (b : Backend σ) (w : World σ) (id : Nat) :
    (w.wakePoller b id).site = w.site := by
  unfold wakePoller
  split
  · split <;> rfl
  · rfl

@[simp] theorem schedules_wakePoller (b : Backend σ) (w : World σ) (id : Nat) :
    (w.wakePoller b id).schedules = w.schedules := by
  unfold wakePoller
  split
  · split <;> rfl
  · rfl

@[simp] theorem endings_wakePoller (b : Backend σ) (w : World σ) (id : Nat) :
    (w.wakePoller b id).endings = w.endings := by
  unfold wakePoller
  split
  · split <;> rfl
  · rfl

theorem engine_site_follow (b : Backend σ) (w : World σ) (id : Nat) (schedule : Schedule)
    (events : List Event) :
    (w.follow b id schedule events).engine = w.engine ∧
      (w.follow b id schedule events).site = w.site := by
  unfold follow
  split
  · exact ⟨rfl, rfl⟩
  · split
    · exact ⟨rfl, rfl⟩
    · simp

@[simp] theorem engine_feed (b : Backend σ) (w : World σ) (id : Nat) (schedule : Schedule)
    (stimulus : Stimulus) :
    (w.feed b id schedule stimulus).engine = (w.engine.step stimulus).1 :=
  (engine_site_follow b _ id schedule _).1

@[simp] theorem site_feed (b : Backend σ) (w : World σ) (id : Nat) (schedule : Schedule)
    (stimulus : Stimulus) : (w.feed b id schedule stimulus).site = w.site :=
  (engine_site_follow b _ id schedule _).2

/-! ## What an operation does -/

section Operation

variable {b : Backend σ} {w : World σ} {id : Nat} {schedule : Schedule} {op : Operation}

/-- Nothing comes now of the call of an operation, if it waits for one. -/
def Stalled (b : Backend σ) (w : World σ) (op : Operation) (schedule : Schedule) : Prop :=
  ∀ call, op.call? = some call →
    if schedule.arrived then b.answer? w.site call = none else w.now < schedule.arrivesAt

/-- An operation whose call is answered hears the answer. -/
theorem actOperation_of_answer (found : w.engine.operations.get? id = some op) {call : Call}
    (waits : op.call? = some call) (arrived : schedule.arrived) {answer : Answer} {site : σ}
    (answers : b.answer? w.site call = some (answer, site)) :
    w.actOperation b id schedule =
      some ({ w with site := site }.feed b id schedule (.signalled id (.answered answer))) := by
  simp [actOperation, found, waits, arrived, answers]

/-- A call arrives when it is due. -/
theorem actOperation_of_arrival (found : w.engine.operations.get? id = some op) {call : Call}
    (waits : op.call? = some call) (underWay : schedule.arrived = false)
    (due : schedule.arrivesAt ≤ w.now) :
    w.actOperation b id schedule =
      some { w with
        site := b.arrive w.site call
        schedules := w.schedules.insert id { schedule with arrived := true } } := by
  simp [actOperation, found, waits, underWay, due]

/-- An operation of whose call nothing comes does what is ripe. -/
theorem actOperation_of_stalled (found : w.engine.operations.get? id = some op)
    (stalled : w.Stalled b op schedule) :
    w.actOperation b id schedule =
      (w.ripeSignal? id op schedule).map (w.feed b id schedule) := by
  cases hcall : op.call? with
  | none => simp [actOperation, found, hcall]
  | some call =>
      have hstalled := stalled call hcall
      cases harrived : schedule.arrived with
      | true =>
          rw [harrived, if_pos rfl] at hstalled
          simp [actOperation, found, hcall, harrived, hstalled]
      | false =>
          rw [harrived, if_neg Bool.false_ne_true] at hstalled
          simp [actOperation, found, hcall, harrived, Nat.not_le.mpr hstalled]

/-- An operation hears the answer to its call, or its call arrives, or nothing comes of
it. -/
theorem answer_or_arrival_or_stalled (b : Backend σ) (w : World σ) (op : Operation)
    (schedule : Schedule) :
    (∃ call answer site, op.call? = some call ∧ schedule.arrived ∧
        b.answer? w.site call = some (answer, site)) ∨
      (∃ call, op.call? = some call ∧ schedule.arrived = false ∧ schedule.arrivesAt ≤ w.now) ∨
      w.Stalled b op schedule := by
  cases hcall : op.call? with
  | none => exact .inr (.inr fun call h => by rw [hcall] at h; cases h)
  | some call =>
      have hstalled : (if schedule.arrived then b.answer? w.site call = none
          else w.now < schedule.arrivesAt) → w.Stalled b op schedule := by
        intro h other hother
        cases hcall.symm.trans hother
        exact h
      cases harrived : schedule.arrived with
      | true =>
          cases hanswer : b.answer? w.site call with
          | none => exact .inr (.inr (hstalled (by simp [harrived, hanswer])))
          | some answered => exact .inl ⟨call, answered.1, answered.2, rfl, rfl, hanswer⟩
      | false =>
          by_cases hdue : schedule.arrivesAt ≤ w.now
          · exact .inr (.inl ⟨call, rfl, rfl, hdue⟩)
          · exact .inr (.inr (hstalled (by simp [harrived, Nat.not_le.mp hdue])))

end Operation

/-! ## What can happen -/

/-- What can happen at an instant. -/
inductive Effect (b : Backend σ) (w : World σ) : World σ → Prop where
  /-- An operation need not wait any longer. -/
  | ripe {after : World σ} {id : Nat} {op : Operation} {schedule : Schedule}
      {stimulus : Stimulus} (ripe : w.ripeSignal? id op schedule = some stimulus)
      (engine : after.engine = (w.engine.step stimulus).1) (site : after.site = w.site) :
      Effect b w after
  /-- A call is answered. -/
  | answered {after : World σ} {id : Nat} {op : Operation} {call : Call} {answer : Answer}
      (found : w.engine.operations.get? id = some op) (waited : op.call? = some call)
      (answers : b.answer? w.site call = some (answer, after.site))
      (engine : after.engine = (w.engine.step (.signalled id (.answered answer))).1) :
      Effect b w after
  /-- A call arrives. -/
  | arrived {after : World σ} {call : Call} (engine : after.engine = w.engine)
      (site : after.site = b.arrive w.site call) : Effect b w after
  /-- A poller has rested, or stops. -/
  | woken {after : World σ} {id : Nat}
      (engine : after.engine = (w.engine.step (.woken id .woken)).1)
      (site : after.site = w.site) : Effect b w after
  /-- A question is answered. -/
  | asked {after : World σ} {id : Nat} {job : JobHandle} {signal : PollerSignal}
      (answers : b.ask? w.site job = some (signal, after.site))
      (engine : after.engine = (w.engine.step (.woken id signal)).1) : Effect b w after

theorem effect_actOperation {b : Backend σ} {w after : World σ} {id : Nat} {schedule : Schedule}
    (h : w.actOperation b id schedule = some after) : Effect b w after := by
  have hdeadline : ∀ op,
      (w.ripeSignal? id op schedule).map (w.feed b id schedule) = some after →
        Effect b w after := by
    intro op hop
    obtain ⟨stimulus, hripe, rfl⟩ := Option.map_eq_some_iff.mp hop
    exact .ripe hripe (engine_feed ..) (site_feed ..)
  unfold actOperation at h
  split at h
  · cases h
  rename_i op found
  split at h
  · exact hdeadline op h
  rename_i call waited
  split at h
  · split at h
    · rename_i answer site hanswer
      cases h
      refine .answered found waited ?_ (engine_feed ..)
      rw [site_feed]
      exact hanswer
    · exact hdeadline op h
  split at h
  · cases h
    exact .arrived rfl rfl
  · exact hdeadline op h

theorem effect_actPoller {b : Backend σ} {w after : World σ} {id due : Nat}
    (h : w.actPoller b id due = some after) : Effect b w after := by
  unfold actPoller at h
  split at h
  · cases h
  split at h
  · cases h
    exact .woken rfl rfl
  split at h
  · cases h
  split at h
  · obtain ⟨⟨signal, site⟩, hasked, rfl⟩ := Option.map_eq_some_iff.mp h
    exact .asked hasked rfl
  · cases h
    exact .woken rfl rfl
  · cases h

theorem effect_actOperations {b : Backend σ} {w after : World σ}
    (h : w.actOperations b = some after) : Effect b w after := by
  obtain ⟨entry, _, hentry⟩ := List.exists_of_findSome?_eq_some h
  exact effect_actOperation hentry

/-- **Every step.**  What happens at an instant is one of these. -/
theorem effect_act {b : Backend σ} {w after : World σ} (h : w.act b = some after) :
    Effect b w after := by
  unfold act at h
  cases hoperations : w.actOperations b with
  | some found =>
      rw [hoperations] at h
      cases h
      exact effect_actOperations hoperations
  | none =>
      rw [hoperations] at h
      obtain ⟨entry, _, hentry⟩ := List.exists_of_findSome?_eq_some h
      exact effect_actPoller hentry

/-- What is ripe is no answer and no order. -/
theorem of_ripeSignal? {w : World σ} {id : Nat} {op : Operation} {schedule : Schedule}
    {stimulus : Stimulus} (h : w.ripeSignal? id op schedule = some stimulus) :
    stimulus = .dropped id ∨
      ∃ signal, stimulus = .signalled id signal ∧ ∀ answer, signal ≠ .answered answer := by
  unfold ripeSignal? at h
  split at h
  · cases h
    exact .inr ⟨_, rfl, nofun⟩
  split at h
  · cases h
    exact .inr ⟨_, rfl, nofun⟩
  split at h
  · cases h
    exact .inr ⟨_, rfl, nofun⟩
  split at h
  · cases h
    exact .inl rfl
  · cases h

/-! ## In the course of time -/

/-- A relation that holds from each state to the next, and so from each to all that
follow. -/
structure Course (b : Backend σ) (R : World σ → World σ → Prop) : Prop where
  refl : ∀ w, R w w
  trans : ∀ {w₁ w₂ w₃}, R w₁ w₂ → R w₂ w₃ → R w₁ w₃
  act : ∀ {w after}, w.act b = some after → R w after
  clock : ∀ (w : World σ) (t : Nat), R w { w with now := t }

namespace Course

variable {b : Backend σ} {R : World σ → World σ → Prop}

theorem tick (c : Course b R) {w after : World σ} (h : w.tick b = some after) : R w after := by
  unfold World.tick at h
  split at h
  · rename_i hfound
    cases h
    exact c.act hfound
  · obtain ⟨due, _, rfl⟩ := Option.map_eq_some_iff.mp h
    exact c.clock w due

theorem tickBefore (c : Course b R) {t : Nat} {w after : World σ}
    (h : w.tickBefore b t = some after) : R w after := by
  unfold World.tickBefore at h
  split at h
  · split at h
    · rename_i hfound
      cases h
      exact c.act hfound
    · obtain ⟨due, _, rfl⟩ := Option.map_eq_some_iff.mp h
      exact c.clock w due
  · cases h

theorem iterate (c : Course b R) {next : World σ → Option (World σ)}
    (hnext : ∀ w after, next w = some after → R w after) (fuel : Nat) (w : World σ) :
    R w (World.iterate next fuel w) := by
  induction fuel generalizing w with
  | zero => exact c.refl w
  | succ fuel ih =>
      unfold World.iterate
      split
      · rename_i after hafter
        exact c.trans (hnext _ _ hafter) (ih after)
      · exact c.refl w

theorem runTo (c : Course b R) (w : World σ) (t : Nat) : R w (w.runTo b t) := by
  have hbefore : R w (World.iterate (World.tickBefore b t) plenty w) :=
    c.iterate (fun _ _ => c.tickBefore) plenty w
  exact c.trans hbefore (c.clock _ _)

theorem settleOperations (c : Course b R) (w : World σ) : R w (w.settleOperations b) := by
  apply c.iterate
  intro w after hafter
  apply c.act
  unfold World.act
  rw [hafter]
  rfl

theorem runUntilOver (c : Course b R) (w : World σ) (ids : List Nat) :
    R w (w.runUntilOver b ids) := by
  apply c.iterate
  intro w after hafter
  split at hafter
  · cases hafter
  · exact c.tick hafter

end Course

end SnapshotEngine.World
