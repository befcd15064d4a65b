import SnapshotEngine.Proofs.Rehearsal.Alone

/-!
# A confirmation by itself

An operation by itself has its job accepted, and then its transfer and its poller set out
together.  At one instant operations come before pollers, so the poller asks its first
question as soon as the operation has to wait.

* `Approaching`, `approaching_order` — an operation whose job is still to be accepted;
* `Confirming`, `Approaching.accepted` — its transfer with its confirmation and its poller;
* `Confirming.hears_done`, `Confirming.moves_data`, `Confirming.cancels`,
  `Confirming.stops_cancelled`, `Confirming.settles` — each thing that can happen to them;
* `Confirming.confirmed` — what comes of a transfer in time, with a job that is done.
-/

namespace SnapshotEngine

variable {σ : Type}

namespace World

variable {b : Backend σ} {w after : World σ} {id : Nat} {op : Operation} {schedule : Schedule}

/-! ## A transfer and its confirmation -/

/-- A transfer by itself with its confirmation: its time limit is not reached, and its
poller is to be woken now, unless it has stopped. -/
structure Confirming (id : Nat) (op : Operation) (c : Confirmation) (schedule : Schedule)
    (p : Poller) (w : World σ) : Prop extends Alone id (op.confirm c) schedule w where
  ordered : op.job? = some c.job
  moves : op.transfer? = some (c.action, c.object)
  polled : w.engine.pollers.get? id = some p
  asks : p.job = c.job
  wakes : w.wakeAt.entries = if p.hasExited then [] else [(id, w.now)]
  early : ∃ t, schedule.limitAt = some t ∧ w.now < t

/-- A poller that has its time to be woken keeps it. -/
theorem wakePoller_eq {p : Poller} (polled : w.engine.pollers.get? id = some p) {due : Nat}
    (wakes : w.wakeAt.entries = if p.hasExited then [] else [(id, due)]) :
    w.wakePoller b id = w := by
  unfold wakePoller
  rw [polled]
  cases hexited : p.hasExited with
  | true => cases w.wakeAt.get? id <;> simp [hexited]
  | false =>
      have hget : w.wakeAt.get? id = some due := by
        simp [Table.get?, wakes, hexited, Table.lookupIn]
      rw [hget]

namespace Confirming

variable {c : Confirmation} {p : Poller}

theorem confirmation (h : Confirming id op c schedule p w) :
    (op.confirm c).confirmation? = some c ∧ (op.confirm c).call? = c.call? :=
  Operation.confirmation?_call?_confirm h.ordered c

theorem exited (h : Confirming id op c schedule p w) : w.engine.pollerExited id = p.hasExited := by
  simp [Engine.pollerExited, h.polled]

/-- Once the data has moved the poller is waited for. -/
theorem awaits (h : Confirming id op c schedule p w) :
    ((op.confirm c).isSettling || (op.confirm c).isJoining) = decide (c.stage ≠ .transferring) := by
  unfold Operation.isSettling Operation.isJoining
  rw [h.confirmation.1]
  cases hs : c.stage <;> simp [hs]

/-- What goes on leaves the registry as it is, and a poller that is no longer followed
cancelled. -/
theorem continues (h : Confirming id op c schedule p w) {signal : Signal} {c' : Confirmation}
    (advance : c.advance signal = some (.continues c')) :
    Confirming id op c' (w.reschedule b (op.confirm c') schedule)
        (if c'.stage = .joining then p.cancel else p)
        (w.feed b id schedule (.signalled id signal)) ∧
      (w.feed b id schedule (.signalled id signal)).engine.registry = w.engine.registry := by
  have hadmits : w.engine.admits id signal := by
    rcases Confirmation.advance_eq_continues advance with ⟨rfl, _⟩ | ⟨rfl, _⟩ <;> rfl
  have hstage : c'.stage ≠ .transferring := by
    rcases Confirmation.advance_eq_continues advance with ⟨_, _, rfl⟩ | ⟨_, _, rfl⟩ <;> nofun
  obtain ⟨hjob, haction, hobject⟩ := Confirmation.advance_continues advance
  have hresume := Operation.resume_confirm_continues h.ordered advance w.engine.registry
  obtain ⟨halone, hengine⟩ := h.toAlone.goesOn (b := b) hadmits hresume
  have hpoller : (w.engine.keep id w.engine.registry (op.confirm c')).pollers.get? id =
      some (if c'.stage = .joining then p.cancel else p) := by
    rw [Engine.get?_pollers_keep, (Operation.confirmation?_call?_confirm h.ordered c').1, h.polled]
    cases hs : c'.stage with
    | transferring => exact absurd hs hstage
    | settling => simp [hs]
    | joining => simp [hs]
  have hexited : (if c'.stage = .joining then p.cancel else p).hasExited = p.hasExited := by
    split <;> rfl
  have hwakes : w.wakeAt.entries =
      if (if c'.stage = .joining then p.cancel else p).hasExited then [] else [(id, w.now)] := by
    rw [hexited]
    exact h.wakes
  have hfeed : w.feed b id schedule (.signalled id signal) =
      { w with
        engine := w.engine.keep id w.engine.registry (op.confirm c')
        schedules := w.schedules.insert id (w.reschedule b (op.confirm c') schedule) } :=
    (feed_of_goesOn h.found hadmits hresume).trans (wakePoller_eq hpoller hwakes)
  refine ⟨⟨halone, hjob ▸ h.ordered, haction ▸ hobject ▸ h.moves, hengine ▸ hpoller, ?_, ?_, ?_⟩,
    ?_⟩
  · rw [hjob, ← h.asks]
    split <;> rfl
  · rw [hfeed]
    exact hwakes
  · obtain ⟨t, hlimit, hlater⟩ := h.early
    refine ⟨t, ?_, (now_feed ..).symm ▸ hlater⟩
    simp [reschedule, hlimit]
  · rw [hengine, Engine.registry_keep]

/-- A poller that is woken while nothing else happens, and stops. -/
theorem wakes_up (h : Confirming id op c schedule p w) (idle : w.actOperation b id schedule = none)
    (awake : p.hasExited = false) {signal : PollerSignal} {site : σ} {again : Nat}
    (acts : w.actPoller b id w.now = some ({ w with site := site }.rouse id signal again))
    (stops : (p.advance signal).hasExited) :
    Leads b id 1 w ({ w with site := site }.rouse id signal again) ∧
      Confirming id op c schedule (p.advance signal)
        ({ w with site := site }.rouse id signal again) := by
  have hentries : w.wakeAt.entries = [(id, w.now)] := by simp [h.wakes, awake]
  have hpollers : (w.engine.step (.woken id signal)).1.pollers.get? id =
      some (p.advance signal) := by
    simp [Engine.step, Engine.wake, h.polled, Table.get?_insert]
  refine ⟨h.toAlone.leads ?_, h.toAlone.actPoller acts, h.ordered, h.moves, hpollers, ?_, ?_,
    h.early⟩
  · rw [tick, act_of_scheduled h.scheduled, idle]
    simp [actPollers, numbered, hentries, acts]
  · rw [(p.job_advance signal).1, h.asks]
  · simp [rouse, hpollers, stops, Table.erase, hentries]

/-- A poller that asks while nothing else happens hears that the job is done, and stops. -/
theorem hears_done (h : Confirming id op c schedule p w)
    (idle : w.actOperation b id schedule = none) (asking : p.stage = .asking)
    (live : p.cancelled = false) {site : σ}
    (answers : b.ask? w.site p.job = some (.answered (.ok .done), site)) :
    ∃ after q, Leads b id 1 w after ∧ Confirming id op c schedule q after ∧ q.hasExited ∧
      after.site = site ∧ after.now = w.now ∧
      after.engine.registry = w.engine.registry.record c.job .done := by
  have hawake : p.hasExited = false := by simp [Poller.hasExited, asking]
  have hterminal : JobStatus.done.isTerminal := rfl
  have hstops : (p.advance (.answered (.ok .done))).hasExited := by
    simp [Poller.hasExited, Poller.stage_advance_of_isTerminal asking live hterminal]
  have hacts : w.actPoller b id w.now =
      some ({ w with site := site }.rouse id (.answered (.ok .done)) p.pause.nanos) := by
    simp [actPoller, h.polled, live, asking, answers]
  obtain ⟨hleads, hafter⟩ := h.wakes_up idle hawake hacts hstops
  refine ⟨_, _, hleads, hafter, hstops, rfl, rfl, ?_⟩
  simp [rouse, Engine.step, Engine.wake, h.polled, Poller.noted?, Poller.served?, asking, live,
    h.asks]

/-- A poller that was cancelled stops without having heard anything. -/
theorem stops_cancelled (h : Confirming id op c schedule p w)
    (idle : w.actOperation b id schedule = none) (awake : p.hasExited = false)
    (cancelled : p.cancelled) :
    ∃ after q, Leads b id 1 w after ∧ Confirming id op c schedule q after ∧ q.hasExited ∧
      after.now = w.now ∧ after.engine.registry = w.engine.registry := by
  obtain ⟨hstops, hnoted⟩ := Poller.advance_cancelled cancelled .woken
  have hacts : w.actPoller b id w.now =
      some (({ w with site := w.site } : World σ).rouse id .woken 0) := by
    simp [actPoller, h.polled, cancelled]
  obtain ⟨hleads, hafter⟩ := h.wakes_up idle awake hacts hstops
  refine ⟨_, _, hleads, hafter, hstops, rfl, ?_⟩
  simp [rouse, Engine.step, Engine.wake, h.polled, hnoted]

/-- Once the data has moved no call is waited for. -/
theorem stalled (h : Confirming id op c schedule p w) (moved : c.stage ≠ .transferring) :
    w.Stalled b (op.confirm c) schedule := by
  intro call hwaits
  rw [h.confirmation.2, Confirmation.call?_eq, if_neg moved] at hwaits
  cases hwaits

/-- When the poller has stopped after the data has moved, what was noted of the job
decides. -/
theorem settles (h : Confirming id op c schedule p w) (moved : c.stage ≠ .transferring)
    (stopped : p.hasExited) :
    ∃ after outcome, Leads b id 1 w after ∧
      op.outcome? (.heard (w.engine.registry.statusOf c.job)) = some outcome ∧
      after.endings.get? id = some ⟨some outcome, schedule.startedAt, w.now⟩ := by
  have hadvance : c.advance .pollerExited = some .settled := by simp [Confirmation.advance, moved]
  obtain ⟨r, outcome, hresume, houtcome⟩ :=
    Operation.resume_confirm_ends (r := w.engine.registry) h.ordered h.moves hadvance rfl
  have hadmits : w.engine.admits id .pollerExited := h.exited.trans stopped
  have hstalled : w.Stalled b (op.confirm c) schedule := h.stalled moved
  have hripe : w.ripeSignal? id (op.confirm c) schedule = some (.signalled id .pollerExited) := by
    unfold ripeSignal?
    rw [h.awaits, h.exited, stopped]
    simp [moved]
  refine ⟨w.feed b id schedule (.signalled id .pollerExited), outcome, h.toAlone.leads ?_,
    houtcome, ?_⟩
  · rw [tick, act_of_scheduled h.scheduled, actOperation_of_stalled h.found hstalled, hripe]
    rfl
  · rw [feed_of_ended (Engine.step_ends h.found hadmits hresume) (findSome?_of_ended ..)]
    exact (Table.get?_insert ..).trans (if_pos rfl)

/-- The data moves, and from then on the job is given its time. -/
theorem moves_data (h : Confirming id op c schedule p w) (stage : c.stage = .transferring)
    (underWay : schedule.arrived = false) (ahead : w.now ≤ schedule.arrivesAt)
    (woken : w.now < schedule.arrivesAt → p.hasExited) (ungraced : schedule.graceAt = none)
    (early : ∃ t, schedule.limitAt = some t ∧ schedule.arrivesAt < t) {site : σ}
    (answers : b.answer? (b.arrive w.site (.move c.action c.object)) (.move c.action c.object) =
      some (.moved true, site)) :
    ∃ after later, Leads b id 3 w after ∧
      Confirming id op { c with stage := .settling } later p after ∧
      after.engine.registry = w.engine.registry ∧ after.site = site ∧
      after.now = schedule.arrivesAt ∧ later.startedAt = schedule.startedAt ∧
      later.graceAt = some (schedule.arrivesAt + op.settings.confirmGrace.nanos) := by
  have hwaits : (op.confirm c).call? = some (.move c.action c.object) := by
    rw [h.confirmation.2, Confirmation.call?_eq, if_pos stage]
  have hasleep : w.now < schedule.arrivesAt → w.wakeAt.entries = [] := fun hlater => by
    rw [h.wakes, if_pos (woken hlater)]
  obtain ⟨t, hlimit, hearly⟩ := early
  have honly : ∀ t, schedule.limitAt = some t → schedule.arrivesAt < t := fun t' ht' => by
    cases hlimit.symm.trans ht'
    exact hearly
  obtain ⟨before, halone, hengine, hsite, hnow, hwake, hleads⟩ :=
    h.toAlone.answered hwaits underWay ahead hasleep ungraced honly answers
  have hbefore : Confirming id op c { schedule with arrived := true } p before := by
    refine ⟨halone, h.ordered, h.moves, hengine ▸ h.polled, h.asks, ?_, t, hlimit, hnow ▸ hearly⟩
    rw [hwake, h.wakes, hnow]
    rcases Nat.eq_or_lt_of_le ahead with heq | hlater
    · rw [heq]
    · rw [woken hlater]
      rfl
  have hadvance : c.advance (.answered (.moved true)) =
      some (.continues { c with stage := .settling }) := by
    simp [Confirmation.advance, stage, TransferAction.outcome]
  obtain ⟨hafter, hregistry⟩ := hbefore.continues (b := b) hadvance
  have hsettling : (op.confirm { c with stage := .settling }).isSettling := by
    rw [Operation.isSettling_iff]
    exact ⟨_, (Operation.confirmation?_call?_confirm h.ordered _).1, rfl⟩
  refine ⟨_, _, hleads, hafter, hregistry.trans (by rw [hengine]), (site_feed ..).trans hsite,
    (now_feed ..).trans hnow, rfl, ?_⟩
  simp [reschedule, ungraced, hsettling, hnow]

/-- When the grace is over before the poller has stopped, the poller is cancelled. -/
theorem cancels (h : Confirming id op c schedule p w) (stage : c.stage = .settling)
    (awake : p.hasExited = false) (graced : schedule.graceAt = some w.now) :
    ∃ after later, Leads b id 1 w after ∧
      Confirming id op { c with stage := .joining } later p.cancel after ∧
      after.engine.registry = w.engine.registry ∧ after.now = w.now ∧
      later.startedAt = schedule.startedAt := by
  have hadvance : c.advance .graceOver = some (.continues { c with stage := .joining }) := by
    simp [Confirmation.advance, stage]
  have hstalled : w.Stalled b (op.confirm c) schedule := h.stalled (by simp [stage])
  have hsettling : (op.confirm c).isSettling :=
    Operation.isSettling_iff.mpr ⟨c, h.confirmation.1, stage⟩
  have hripe : w.ripeSignal? id (op.confirm c) schedule = some (.signalled id .graceOver) := by
    unfold ripeSignal?
    rw [h.exited, awake, hsettling, graced]
    simp [isDue]
  obtain ⟨hafter, hregistry⟩ := h.continues (b := b) hadvance
  refine ⟨_, _, h.toAlone.leads ?_, hafter, hregistry, now_feed .., rfl⟩
  rw [tick, act_of_scheduled h.scheduled, actOperation_of_stalled h.found hstalled, hripe]
  rfl

/-- Nothing comes of an operation that waits for its call or for its poller, while it has
time. -/
theorem idles (h : Confirming id op c schedule p w) (stalled : w.Stalled b (op.confirm c) schedule)
    (awake : c.stage ≠ .transferring → p.hasExited = false)
    (graced : c.stage = .settling → ∀ t, schedule.graceAt = some t → w.now < t) :
    w.actOperation b id schedule = none := by
  obtain ⟨limit, hlimit, hlater⟩ := h.early
  have hstays : (((op.confirm c).isSettling || (op.confirm c).isJoining) &&
      w.engine.pollerExited id) = false := by
    rw [h.awaits, h.exited, Bool.and_eq_false_imp]
    exact fun hmoved => awake (of_decide_eq_true hmoved)
  have hgrace : ((op.confirm c).isSettling && isDue w.now schedule.graceAt) = false := by
    by_cases hs : c.stage = .settling
    · rw [isDue_eq_false_iff.mpr (graced hs), Bool.and_false]
    · unfold Operation.isSettling
      simp [h.confirmation.1, hs]
  have hunripe : w.ripeSignal? id (op.confirm c) schedule = none := by
    rw [ripeSignal?_eq_none_iff, h.unhurried]
    refine ⟨hstays, hgrace, isDue_eq_false_iff.mpr fun t ht => ?_, rfl⟩
    cases hlimit.symm.trans ht
    exact hlater
  rw [actOperation_of_stalled h.found stalled, hunripe]
  rfl

/-- **A whole confirmation.**  The upload succeeds in time, and whoever asks after the job
hears that it is done.  Then this is what is reported, except that nothing was heard when
neither the transfer nor the grace takes any time. -/
theorem confirmed {pause : Duration} (h : Confirming id op c schedule (.start c.job pause) w)
    (stage : c.stage = .transferring) (underWay : schedule.arrived = false)
    (ungraced : schedule.graceAt = none) {d : Nat} (takes : schedule.arrivesAt = w.now + d)
    (early : ∃ t, schedule.limitAt = some t ∧ w.now + d < t) {v : Volume}
    (known : w.engine.registry.volume? c.job.volumeId = some v)
    (reset : w.engine.registry.statusOf c.job = .pending) {P : σ → Prop} (site : P w.site)
    (moves : ∀ site, P site → ∃ after, b.answer? (b.arrive site (.move c.action c.object))
      (.move c.action c.object) = some (.moved true, after) ∧ P after)
    (prompt : ∀ site, P site → ∃ after, b.ask? site c.job =
      some (.answered (.ok .done), after) ∧ P after) :
    ∃ after outcome, Leads b id 6 w after ∧
      op.outcome? (.heard (if d = 0 ∧ op.settings.confirmGrace.nanos = 0 then .pending
        else .done)) = some outcome ∧
      after.endings.get? id = some ⟨some outcome, schedule.startedAt, w.now + d⟩ := by
  have hdone : (w.engine.registry.record c.job .done).statusOf c.job = .done :=
    Registry.statusOf_record known .done
  by_cases hinstant : d = 0
  · -- The data has moved before the poller has asked.
    subst hinstant
    obtain ⟨_, hmoved, hsite⟩ := moves _ site
    obtain ⟨settling, later, hleads, hsettling, hregistry, hvisited, hnow, hstarted, hgrace⟩ :=
      h.moves_data stage underWay (by omega) (by omega) ungraced (takes ▸ early) hmoved
    rw [takes, Nat.add_zero] at hnow hgrace
    by_cases hnograce : op.settings.confirmGrace.nanos = 0
    · rw [hnograce, Nat.add_zero, ← hnow] at hgrace
      obtain ⟨joining, last, hcancels, hjoining, hregistry', hnow', hstarted'⟩ :=
        hsettling.cancels rfl rfl hgrace
      have hidle : joining.actOperation b id last = none :=
        hjoining.idles (hjoining.stalled nofun) (fun _ => rfl) nofun
      obtain ⟨stopped, q, hstops, hstopped, hexited, hnow'', hregistry''⟩ :=
        hjoining.stops_cancelled hidle rfl rfl
      obtain ⟨ended, outcome, hsettles, houtcome, hending⟩ := hstopped.settles nofun hexited
      refine ⟨ended, outcome, ((hleads.trans hcancels).trans hstops).trans hsettles, ?_, ?_⟩
      · rw [if_pos ⟨rfl, hnograce⟩, ← reset, ← hregistry, ← hregistry', ← hregistry'']
        exact houtcome
      · rw [hending, hstarted', hstarted, hnow'', hnow', hnow, Nat.add_zero]
    · have hidle : settling.actOperation b id later = none :=
        hsettling.idles (hsettling.stalled nofun) (fun _ => rfl) fun _ t ht => by
          cases hgrace.symm.trans ht
          omega
      obtain ⟨_, hanswer, _⟩ := prompt _ (hvisited ▸ hsite)
      obtain ⟨told, q, hasks, htold, hexited, _, hnow', hregistry'⟩ :=
        hsettling.hears_done hidle rfl rfl hanswer
      obtain ⟨ended, outcome, hsettles, houtcome, hending⟩ := htold.settles nofun hexited
      refine ⟨ended, outcome, ((hleads.trans hasks).trans hsettles).mono (by decide), ?_, ?_⟩
      · rw [if_neg fun hnone => hnograce hnone.2, ← hdone, ← hregistry, ← hregistry']
        exact houtcome
      · rw [hending, hstarted, hnow', hnow, Nat.add_zero]
  · -- The poller asks while the data moves.
    have hstalled : w.Stalled b (op.confirm c) schedule := fun call _ => by
      rw [underWay]
      change w.now < schedule.arrivesAt
      omega
    have hidle : w.actOperation b id schedule = none :=
      h.idles hstalled (absurd stage) fun hs => by rw [stage] at hs; cases hs
    obtain ⟨_, hanswer, hsite⟩ := prompt _ site
    obtain ⟨told, q, hasks, htold, hexited, hvisited, hnow, hregistry⟩ :=
      h.hears_done hidle rfl rfl hanswer
    obtain ⟨_, hmoved, _⟩ := moves _ (hvisited ▸ hsite)
    obtain ⟨settling, later, hleads, hsettling, hregistry', _, hnow', hstarted, _⟩ :=
      htold.moves_data stage underWay (by omega) (fun _ => hexited) ungraced (takes ▸ early) hmoved
    obtain ⟨ended, outcome, hsettles, houtcome, hending⟩ := hsettling.settles nofun hexited
    refine ⟨ended, outcome, ((hasks.trans hleads).trans hsettles).mono (by decide), ?_, ?_⟩
    · rw [if_neg fun hnone => hinstant hnone.1, ← hdone, ← hregistry, ← hregistry']
      exact houtcome
    · rw [hending, hstarted, hnow', takes]

end Confirming

/-! ## On the way to the transfer -/

/-- An operation by itself whose job is still to be accepted. -/
structure Approaching (id : Nat) (op : Operation) (schedule : Schedule) (w : World σ) : Prop
    extends Alone id op schedule w where
  unpolled : w.engine.pollers.get? id = none
  asleep : w.wakeAt.entries = []
  underWay : schedule.arrived = false
  ahead : w.now ≤ schedule.arrivesAt
  unlimited : schedule.limitAt = none
  ungraced : schedule.graceAt = none

/-- A poller that is new is woken for its first question. -/
theorem wakePoller_new {p : Poller} (polled : w.engine.pollers.get? id = some p)
    (awake : p.hasExited = false) (asleep : w.wakeAt.entries = []) :
    (w.wakePoller b id).wakeAt.entries = [(id, w.now + b.queryDelay w.site)] := by
  have hnone : w.wakeAt.get? id = none := by simp [Table.get?, asleep, Table.lookupIn]
  unfold wakePoller
  rw [polled, hnone]
  simp [awake, Table.insert, asleep]

/-- What is ordered by itself is on its way, if it waits. -/
theorem approaching_order (b : Backend σ) (hschedules : w.schedules.entries = [])
    (hwake : w.wakeAt.entries = []) (hrunning : w.endings.get? w.engine.next = none)
    (absent : w.engine.pollers.get? w.engine.next = none) {settings : Settings} {order : Order}
    {r : Registry} (hstart : Operation.start w.engine.registry settings order = .waits r op) :
    Approaching w.engine.next op (w.reschedule b op (starting w.now))
      (w.order b settings order none) := by
  have hconfirmation := (Operation.start_waits hstart).2.1
  have hpollers : ({ w.engine with next := w.engine.next + 1 }.keep w.engine.next r
      op).pollers.get? w.engine.next = none := by
    rw [Engine.get?_pollers_keep, hconfirmation]
    exact absent
  refine ⟨alone_order b hschedules hwake hrunning hstart, ?_, ?_, rfl, ?_, ?_, ?_⟩
  · rw [order_of_waits b hstart, engine_wakePoller]
    exact hpollers
  · rw [order_of_waits b hstart, wakePoller]
    simp [hpollers, hwake]
  · simp [World.order, reschedule]
  · simp [starting, reschedule, hconfirmation]
  · simp [starting, reschedule, Operation.isSettling, hconfirmation]

namespace Approaching

/-- Its call is answered when it is due. -/
theorem answered (h : Approaching id op schedule w) {call : Call} (waits : op.call? = some call)
    {answer : Answer} {site : σ}
    (answers : b.answer? (b.arrive w.site call) call = some (answer, site)) :
    ∃ before, Alone id op { schedule with arrived := true } before ∧
      before.engine = w.engine ∧ before.site = site ∧ before.wakeAt.entries = [] ∧
      Leads b id 3 w (before.feed b id { schedule with arrived := true }
        (.signalled id (.answered answer))) := by
  have hunlimited : ∀ t, schedule.limitAt = some t → schedule.arrivesAt < t := fun t ht => by
    rw [h.unlimited] at ht
    cases ht
  obtain ⟨before, halone, hengine, hsite, _, hwake, hleads⟩ :=
    h.toAlone.answered waits h.underWay h.ahead (fun _ => h.asleep) h.ungraced hunlimited answers
  exact ⟨before, halone, hengine, hsite, hwake ▸ h.asleep, hleads⟩

/-- A call is answered, and the operation comes nearer to its transfer. -/
theorem approaches (h : Approaching id op schedule w) {call : Call} (waits : op.call? = some call)
    {answer : Answer} {site : σ}
    (answers : b.answer? (b.arrive w.site call) call = some (answer, site)) {next : Operation}
    (resume : op.resume w.engine.registry (.answered answer) =
      some (.waits w.engine.registry next)) (before : next.confirmation? = none) :
    ∃ after later, Leads b id 3 w after ∧ Approaching id next later after ∧
      after.engine.registry = w.engine.registry ∧ after.site = site ∧
      later.startedAt = schedule.startedAt := by
  obtain ⟨asked, halone, hengine, hsite, hasleep, hleads⟩ := h.answered waits answers
  rw [← hengine] at resume
  obtain ⟨hnext, hkept⟩ := halone.goesOn (b := b) rfl resume
  have hpollers : (asked.engine.keep id asked.engine.registry next).pollers.get? id = none := by
    rw [Engine.get?_pollers_keep, before, hengine]
    exact h.unpolled
  refine ⟨_, _, hleads, ⟨hnext, hkept ▸ hpollers, ?_, rfl, ?_, ?_, ?_⟩, ?_,
    (site_feed ..).trans hsite, rfl⟩
  · rw [feed_of_goesOn halone.found rfl resume, wakePoller]
    simp [hpollers, hasleep]
  · simp [reschedule]
  · simp [reschedule, h.unlimited, before]
  · simp [reschedule, h.ungraced, Operation.isSettling, before]
  · rw [hkept, Engine.registry_keep, hengine]

/-- The job is accepted, and the transfer sets out together with the first question. -/
theorem accepted (h : Approaching id op schedule w) {call : Call} {job : JobHandle}
    (waits : op.call? = some call) (orders : call.job? = some job) {site : σ}
    (answers : b.answer? (b.arrive w.site call) call = some (.accepted (.ok job), site))
    (prompt : b.queryDelay site = 0) (takes : 0 < op.settings.operationTimeout.nanos) :
    ∃ after later action object, Leads b id 3 w after ∧
      Confirming id op (.start job action object) later (.start job op.settings.pollInterval)
        after ∧
      after.engine.registry = w.engine.registry ∧ after.site = site ∧ later.arrived = false ∧
      later.graceAt = none ∧
      later.arrivesAt = after.now + b.callDelay site (.move action object) ∧
      later.limitAt = some (after.now + op.settings.operationTimeout.nanos) ∧
      later.startedAt = schedule.startedAt := by
  obtain ⟨asked, halone, hengine, hsite, hasleep, hleads⟩ := h.answered waits answers
  obtain ⟨_, hjob, action, object, hmoves, hresume⟩ :=
    Operation.resume_accepted waits orders asked.engine.registry
  obtain ⟨hconfirmation, hcall⟩ :=
    Operation.confirmation?_call?_confirm hjob (.start job action object)
  obtain ⟨hnext, hkept⟩ := halone.goesOn (b := b) rfl hresume
  have hpollers : (asked.engine.keep id asked.engine.registry
      (op.confirm (.start job action object))).pollers.get? id =
        some (.start job op.settings.pollInterval) := by
    rw [Engine.get?_pollers_keep, hconfirmation]
    simp [Confirmation.start]
  have hmove : (op.confirm (.start job action object)).call? = some (.move action object) := hcall
  have hunsettled := (Bool.or_eq_false_iff.mp (not_settling_of_call? hmove)).1
  refine ⟨_, _, action, object, hleads, ⟨hnext, hjob, hmoves, hkept ▸ hpollers, rfl, ?_, ?_⟩, ?_,
    (site_feed ..).trans hsite, rfl, ?_, ?_, ?_, rfl⟩
  · rw [feed_of_goesOn halone.found rfl hresume, wakePoller_new hpollers rfl]
    · simp [hsite, prompt, Poller.start, Poller.hasExited]
    · exact hasleep
  · refine ⟨asked.now + op.settings.operationTimeout.nanos, ?_, ?_⟩
    · simp [reschedule, h.unlimited, hconfirmation]
    · rw [now_feed]
      exact Nat.lt_add_of_pos_right takes
  · rw [hkept, Engine.registry_keep, hengine]
  · simp [reschedule, h.ungraced, hunsettled]
  · simp [reschedule, hmove, hsite]
  · simp [reschedule, h.unlimited, hconfirmation]

end Approaching

end World

end SnapshotEngine
