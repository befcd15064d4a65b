import SnapshotEngine.Proofs.Engine.Step
import SnapshotEngine.Proofs.Poller
import SnapshotEngine.Proofs.Registry.Record
import SnapshotEngine.Proofs.Rehearsal.Standing
import SnapshotEngine.Proofs.Rehearsal.World

/-!
# The world moves with its standing

A world in which one operation is scheduled does at each tick what the standing of
that operation allows: the two move together, from the time at which the job is
accepted to the end.

* `accept_eq` — where they start;
* `movesTo_of_signal`, `movesTo_of_poller` — what makes it move;
* `tick_of_move`, `tick_of_closes` — each move, and the last one;
* `course_over` — an operation that is over stays so.
-/

namespace SnapshotEngine

namespace World

variable {σ : Type} {b : Backend σ} {w : World σ} {id : Nat} {schedule : Schedule}
  {stimulus : Stimulus} {e : Engine} {events : List Event}

/-- An operation that waits again is scheduled anew, and so is its poller if it is
new. -/
theorem feed_of_waits {op : Operation} (hstep : w.engine.step stimulus = (e, events))
    (hevents : events.findSome? ending? = none) (hop : e.operations.get? id = some op) :
    w.feed b id schedule stimulus =
      { w with
        engine := e
        schedules := w.schedules.insert id (reschedule b w op schedule) }.wakePoller b id := by
  unfold feed follow
  rw [hstep]
  dsimp only
  rw [hevents, hop]
  rfl

/-- An operation that has ended is closed. -/
theorem feed_of_ended {outcome : Option Outcome} (hstep : w.engine.step stimulus = (e, events))
    (hevents : events.findSome? ending? = some outcome) :
    w.feed b id schedule stimulus = { w with engine := e }.close id schedule outcome := by
  unfold feed follow
  rw [hstep]
  dsimp only
  rw [hevents]

/-- A poller touches nothing of the operations. -/
theorem schedules_endings_actPoller {after : World σ} {due : Nat}
    (h : w.actPoller b id due = some after) :
    after.schedules = w.schedules ∧ after.endings = w.endings := by
  unfold actPoller at h
  split at h
  · cases h
  split at h
  · cases h
    exact ⟨rfl, rfl⟩
  split at h
  · cases h
  split at h
  · obtain ⟨heard, _, rfl⟩ := Option.map_eq_some_iff.mp h
    exact ⟨rfl, rfl⟩
  · cases h
    exact ⟨rfl, rfl⟩
  · cases h

/-- An answer is not the end of an operation. -/
theorem findSome?_answerEvents (id : Nat) (op : Operation) (signal : Signal) :
    (Engine.answerEvents id op signal).findSome? ending? = none := by
  apply List.findSome?_eq_none_iff.mpr
  intro event hmem
  obtain ⟨_, _, _, _, rfl⟩ := Engine.mem_answerEvents.mp hmem
  rfl

/-- Nor is a call. -/
theorem findSome?_callEvents (id : Nat) (op : Operation) :
    (Engine.callEvents id op).findSome? ending? = none := by
  apply List.findSome?_eq_none_iff.mpr
  intro event hmem
  obtain ⟨_, _, rfl⟩ := Engine.mem_callEvents.mp hmem
  rfl

/-- Nor are the two, one after the other. -/
theorem findSome?_of_waits (id : Nat) (op next : Operation) (signal : Signal) :
    (Engine.answerEvents id op signal ++ Engine.callEvents id next).findSome? ending? = none := by
  rw [List.findSome?_append, findSome?_answerEvents, Option.none_or, findSome?_callEvents]

/-- An operation that a signal has go on is kept, and scheduled anew. -/
theorem feed_of_goesOn {op next : Operation} {signal : Signal} {r : Registry}
    (found : w.engine.operations.get? id = some op) (admits : w.engine.admits id signal)
    (resume : op.resume w.engine.registry signal = some (.waits r next)) :
    w.feed b id schedule (.signalled id signal) =
      { w with
        engine := w.engine.keep id r next
        schedules := w.schedules.insert id (w.reschedule b next schedule) }.wakePoller b id :=
  feed_of_waits (Engine.step_goesOn found admits resume) (findSome?_of_waits ..)
    (Engine.get?_operations_keep_self ..)

/-- The end of an operation is. -/
theorem findSome?_of_ended (id : Nat) (op : Operation) (signal : Signal) (outcome : Outcome) :
    (Engine.answerEvents id op signal ++ [Event.ended id outcome]).findSome? ending? =
      some (some outcome) := by
  rw [List.findSome?_append, findSome?_answerEvents]
  rfl

/-- The times of an operation that waits for its job from now on. -/
def ordering (now : Nat) : Schedule where
  startedAt := now
  arrivesAt := now
  arrived := true
  graceAt := none
  limitAt := none
  abandonAt := none

/-- An operation that waits for its job hears that it was accepted. -/
def accept (b : Backend σ) (w : World σ) (id : Nat) (job : JobHandle) : World σ :=
  w.feed b id (ordering w.now) (.signalled id (.answered (.accepted (.ok job))))

end World

namespace Prospect

variable {x : Prospect} {s : Standing} {e : Engine}

/-! ## What an operation hears -/

/-- The poller is woken when it was to be woken. -/
theorem wakePoller_of_shows {s' : Standing} {w : World Nat} (h : x.Shows s' w.engine)
    (hwake : w.wakeAt.get? x.id = x.wake? s') : w.wakePoller x.backend x.id = w := by
  obtain ⟨p, hp, _, _, hstage, _⟩ := h.poller
  unfold World.wakePoller
  rw [hp, hwake]
  cases hs : s'.poller with
  | exited => simp [wake?, hs, Poller.hasExited, hstage]
  | asking => simp [wake?, hs]
  | resting => simp [wake?, hs]

/-- A transfer that goes on shows in the engine. -/
theorem shows_keep (h : x.Shows s e) {stage : ConfirmationStage} (hstage : stage ≠ .transferring)
    (hbefore : s.stage ≠ .joining) :
    x.Shows { s with stage := stage, arrived := false }
      (e.keep x.id e.registry (x.operation stage)) where
  operation := by rw [Engine.get?_operations_keep, if_pos rfl]
  poller := by
    obtain ⟨p, hp, hjob, hpause, hpoller, hcancelled⟩ := h.poller
    rw [Engine.get?_pollers_keep, confirmation?_operation]
    cases stage with
    | transferring => exact absurd rfl hstage
    | settling => exact ⟨p, hp, hjob, hpause, hpoller, by simpa [hbefore] using hcancelled⟩
    | joining => exact ⟨p.cancel, by simp [hp, confirmation], hjob, hpause, hpoller, rfl⟩
  known := by
    rw [Engine.registry_keep]
    exact h.known
  noted := by
    rw [Engine.registry_keep]
    exact h.noted

/-- Once the data has moved the grace begins. -/
theorem reschedule_moved (hstage : s.stage = .transferring) (hnow : s.now = x.moved) (e : Engine) :
    World.reschedule x.backend (x.world s e) (x.operation .settling) (x.schedule s) =
      x.schedule { s with stage := .settling, arrived := false } := by
  simp [World.reschedule, schedule, hstage, call?_operation, isSettling_operation,
    settings_operation, world, hnow, grace]

/-- When the grace is over nothing new begins. -/
theorem reschedule_graceOver (hstage : s.stage = .settling) (hnow : s.now = x.moved + x.grace)
    (e : Engine) :
    World.reschedule x.backend (x.world s e) (x.operation .joining) (x.schedule s) =
      x.schedule { s with stage := .joining, arrived := false } := by
  simp [World.reschedule, schedule, hstage, call?_operation, world, hnow]

/-- A transfer that goes on is scheduled anew. -/
theorem told_continues (h : x.Shows s e) {signal : Signal} {stage : ConfirmationStage}
    (advance : (x.confirmation s.stage).advance signal = some (.continues (x.confirmation stage)))
    (admits : e.admits x.id signal) (hstage : stage ≠ .transferring) (hbefore : s.stage ≠ .joining)
    (times : World.reschedule x.backend (x.world s e) (x.operation stage) (x.schedule s) =
      x.schedule { s with stage := stage, arrived := false }) :
    ∃ e', x.told s e signal = x.world { s with stage := stage, arrived := false } e' ∧
      x.Shows { s with stage := stage, arrived := false } e' := by
  have hresume : (x.operation s.stage).resume e.registry signal =
      some (.waits e.registry (x.operation stage)) :=
    Operation.resume_confirm_continues x.ordered advance e.registry
  have hstep : e.step (.signalled x.id signal) =
      (e.keep x.id e.registry (x.operation stage),
        Engine.answerEvents x.id (x.operation s.stage) signal ++
          Engine.callEvents x.id (x.operation stage)) := by
    simp [Engine.step, Engine.signal, h.operation, admits, hresume]
  have hshows := shows_keep h hstage hbefore
  have hworld : ({ x.world s e with
      engine := e.keep x.id e.registry (x.operation stage)
      schedules := (x.world s e).schedules.insert x.id
        (x.schedule { s with stage := stage, arrived := false }) } : World Nat) =
      x.world { s with stage := stage, arrived := false }
        (e.keep x.id e.registry (x.operation stage)) := by
    simp [world, Table.insert, wake?]
  refine ⟨_, ?_, hshows⟩
  rw [told, World.feed_of_waits hstep (World.findSome?_of_waits ..) hshows.operation, times, hworld]
  exact wakePoller_of_shows hshows (get?_wakeAt_world ..)

/-- A transfer that comes to an end is over. -/
theorem told_ends (h : x.Shows s e) {signal : Signal} {verdict : Verdict} {resolution : Resolution}
    (advance : (x.confirmation s.stage).advance signal = some verdict)
    (comes : verdict.resolution? (x.timetable.statusAfter s.asked) = some resolution)
    (admits : e.admits x.id signal) : x.Over resolution s.now (x.told s e signal) := by
  obtain ⟨r, outcome, hresume, houtcome⟩ :=
    Operation.resume_confirm_ends (c := x.confirmation s.stage) (r := e.registry) x.ordered x.moves
      advance (h.noted ▸ comes)
  have hstep : e.step (.signalled x.id signal) =
      ({ e with registry := r }.remove x.id (x.operation s.stage),
        Engine.answerEvents x.id (x.operation s.stage) signal ++ [Event.ended x.id outcome]) := by
    simp [Engine.step, Engine.signal, h.operation, admits, operation, hresume]
  rw [told, World.feed_of_ended hstep (World.findSome?_of_ended ..)]
  refine ⟨outcome, houtcome, ?_, ?_⟩
  · simp [World.close, world, Table.erase]
  · simp [World.close, world, Table.get?_insert, schedule]

/-! ## What a poller hears -/

/-- A poller that hears a status has it noted. -/
theorem shows_hears (h : x.Shows s e) (hstage : s.stage ≠ .joining) (hpoller : s.poller = .asking) :
    x.Shows
      { s with
        poller := if x.timetable.isTerminal s.asked then .exited else .resting
        asked := s.asked + 1 }
      (e.step (.woken x.id (.answered (x.timetable.answers s.asked)))).1 := by
  obtain ⟨p, hp, hjob, hpause, hasking, hcancelled⟩ := h.poller
  rw [hpoller] at hasking
  have hlive : p.cancelled = false := hcancelled.trans (decide_eq_false hstage)
  have hserved : ∀ answer, p.served? (.answered answer) = some answer :=
    fun answer => if_pos ⟨hasking, hlive⟩
  obtain ⟨hsame, hrests⟩ := p.job_advance (.answered (x.timetable.answers s.asked))
  have hnext : (p.advance (.answered (x.timetable.answers s.asked))).stage =
      if x.timetable.isTerminal s.asked then .exited else .resting := by
    unfold Timetable.isTerminal
    cases x.timetable.answers s.asked <;> simp [Poller.advance, hasking, hlive]
  have hpollers : ∃ q, (e.pollers.insert x.id
      (p.advance (.answered (x.timetable.answers s.asked)))).get? x.id = some q ∧ q.job = x.job ∧
      q.pause = x.op.settings.pollInterval ∧
      q.stage = (if x.timetable.isTerminal s.asked then .exited else .resting) ∧
      q.cancelled = decide (s.stage = .joining) :=
    ⟨_, by rw [Table.get?_insert, if_pos rfl], hsame.trans hjob, hrests.trans hpause, hnext,
      (Poller.cancelled_advance ..).trans hcancelled⟩
  -- An answer is noted, and an error is not.
  cases hanswer : x.timetable.answers s.asked with
  | error cause =>
      have hstep : (e.step (.woken x.id (.answered (.error cause)))).1 =
          { e with
            pollers := e.pollers.insert x.id (p.advance (.answered (.error cause))) } := by
        simp [Engine.step, Engine.wake, hp, Poller.noted?, hserved]
      rw [hanswer] at hpollers
      rw [hstep]
      refine ⟨h.operation, hpollers, h.known, ?_⟩
      rw [Timetable.statusAfter_succ, hanswer]
      exact h.noted
  | ok status =>
      obtain ⟨v, hv⟩ := h.known
      have hstep : (e.step (.woken x.id (.answered (.ok status)))).1 =
          { e with
            registry := e.registry.record x.job status
            pollers := e.pollers.insert x.id (p.advance (.answered (.ok status))) } := by
        simp [Engine.step, Engine.wake, hp, Poller.noted?, hserved, hjob]
      rw [hanswer] at hpollers
      rw [hstep]
      refine ⟨h.operation, hpollers, ⟨_, by rw [Registry.volume?_record, if_pos rfl, hv]; rfl⟩, ?_⟩
      rw [Timetable.statusAfter_succ, hanswer]
      exact Registry.statusOf_record hv status

/-- A poller that is woken by nothing else asks again, or stops if it was cancelled. -/
theorem shows_woken (h : x.Shows s e) (hpoller : s.stage ≠ .joining → s.poller = .resting) :
    x.Shows { s with poller := if s.stage = .joining then .exited else .asking }
      (e.step (.woken x.id .woken)).1 := by
  obtain ⟨p, hp, hjob, hpause, hstage, hcancelled⟩ := h.poller
  have hstep : (e.step (.woken x.id .woken)).1 =
      { e with pollers := e.pollers.insert x.id (p.advance .woken) } := by
    simp [Engine.step, Engine.wake, hp, Poller.noted?, Poller.served?]
  obtain ⟨hsame, hrests⟩ := p.job_advance .woken
  rw [hstep]
  refine ⟨h.operation, ⟨_, by rw [Table.get?_insert, if_pos rfl], ?_, ?_, ?_, ?_⟩, h.known, h.noted⟩
  · exact hsame.trans hjob
  · exact hrests.trans hpause
  · by_cases hjoining : s.stage = .joining
    · rw [decide_eq_true hjoining] at hcancelled
      have hexited := (Poller.advance_cancelled hcancelled .woken).1
      simpa [Poller.hasExited, hjoining] using hexited
    · rw [decide_eq_false hjoining] at hcancelled
      simp [Poller.advance, hstage, hpoller hjoining, hcancelled, hjoining]
  · simp [hcancelled]

/-- A poller that has heard something is to be woken again when it has rested, unless
it has stopped. -/
theorem rouse_world {s' : Standing} {signal : PollerSignal} {again : Nat}
    (hshows : x.Shows s' (e.step (.woken x.id signal)).1) (hnow : s'.now = s.now)
    (hschedule : x.schedule s' = x.schedule s) (hwake : ∀ t ∈ x.wake? s', t = s.now + again) :
    World.rouse { x.world s e with site := s'.asked } x.id signal again =
      x.world s' (e.step (.woken x.id signal)).1 := by
  obtain ⟨p, hp, _, _, hstage, _⟩ := hshows.poller
  have hexited : p.hasExited = (x.wake? s').isNone := by
    rw [Poller.hasExited, hstage]
    cases hpoller : s'.poller <;> simp [wake?, hpoller]
  cases hnext : x.wake? s' with
  | none =>
      rw [hnext] at hexited
      simp [World.rouse, world, hp, hexited, hnext, Table.erase, hnow, hschedule]
  | some t =>
      rw [hnext] at hexited
      have hsome := hwake t hnext
      simp [World.rouse, world, hp, hexited, hnext, hsome, Table.insert, hnow, hschedule]

/-- A poller whose question has arrived hears the answer. -/
theorem actPoller_asking (h : x.Shows s e) (hstage : s.stage ≠ .joining)
    (hpoller : s.poller = .asking) {due : Nat} (hdue : due ≤ s.now) :
    (x.world s e).actPoller x.backend x.id due =
      some (World.rouse { x.world s e with site := s.asked + 1 } x.id
        (.answered (x.timetable.answers s.asked)) x.pause) := by
  obtain ⟨p, hp, _, hpause, hasking, hcancelled⟩ := h.poller
  have hnow : ¬ s.now < due := Nat.not_lt.mpr hdue
  simp [World.actPoller, world, hp, hcancelled, hstage, hnow, hasking, hpoller, hpause, backend,
    Timetable.backend, pause]

/-- A poller that has rested is woken. -/
theorem actPoller_resting (h : x.Shows s e) (hstage : s.stage ≠ .joining)
    (hpoller : s.poller = .resting) {due : Nat} (hdue : due ≤ s.now) :
    (x.world s e).actPoller x.backend x.id due =
      some ((x.world s e).rouse x.id .woken x.timetable.queryDelay) := by
  obtain ⟨p, hp, _, _, hresting, hcancelled⟩ := h.poller
  have hnow : ¬ s.now < due := Nat.not_lt.mpr hdue
  simp [World.actPoller, world, hp, hcancelled, hstage, hnow, hresting, hpoller, backend,
    Timetable.backend]

/-- A poller that was cancelled is woken at once. -/
theorem actPoller_joining (h : x.Shows s e) (hstage : s.stage = .joining) (due : Nat) :
    (x.world s e).actPoller x.backend x.id due = some ((x.world s e).rouse x.id .woken 0) := by
  obtain ⟨p, hp, _, _, _, hcancelled⟩ := h.poller
  simp [World.actPoller, world, hp, hcancelled, hstage]

/-- A poller that still has to be woken sleeps. -/
theorem actPoller_sleeping (h : x.Shows s e) (hstage : s.stage ≠ .joining) {due : Nat}
    (hdue : s.now < due) : (x.world s e).actPoller x.backend x.id due = none := by
  obtain ⟨p, hp, _, _, _, hcancelled⟩ := h.poller
  simp [World.actPoller, world, hp, hcancelled, hstage, hdue]

/-! ## Where it starts -/

/-- The standing of an operation whose job has just been accepted. -/
def start : Standing where
  now := 0
  stage := .transferring
  arrived := false
  poller := .asking
  asked := 0

/-- The transfer sets out, and the limit is set. -/
theorem reschedule_start (x : Prospect) (e : Engine) :
    World.reschedule x.backend (World.ofEngine e 0) (x.operation .transferring)
      (World.ordering 0) = x.schedule start := by
  simp [World.reschedule, World.ordering, World.ofEngine, schedule, start, call?_operation,
    isSettling_operation, confirmation?_operation, settings_operation, limit]
  rfl

/-- With its job accepted, an operation stands at the start. -/
theorem accept_eq (found : e.operations.get? x.id = some x.op)
    (resume : x.op.resume e.registry (.answered (.accepted (.ok x.job))) =
      some (.waits e.registry (x.operation .transferring)))
    (known : ∃ v, e.registry.volume? x.job.volumeId = some v)
    (unheard : e.registry.statusOf x.job = .pending) :
    ∃ e', (World.ofEngine e 0).accept x.backend x.id x.job = x.world start e' ∧
      x.Shows start e' := by
  have hstep : e.step (.signalled x.id (.answered (.accepted (.ok x.job)))) =
      (e.keep x.id e.registry (x.operation .transferring),
        Engine.answerEvents x.id x.op (.answered (.accepted (.ok x.job))) ++
          Engine.callEvents x.id (x.operation .transferring)) := by
    simp [Engine.step, Engine.signal, found, resume, Engine.admits]
  have hoperation : (e.keep x.id e.registry (x.operation .transferring)).operations.get? x.id =
      some (x.operation .transferring) := by
    rw [Engine.get?_operations_keep, if_pos rfl]
  have hpoller : (e.keep x.id e.registry (x.operation .transferring)).pollers.get? x.id =
      some (.start x.job x.op.settings.pollInterval) := by
    rw [Engine.get?_pollers_keep, confirmation?_operation, settings_operation]
    rfl
  refine ⟨_, ?_, hoperation, ⟨_, hpoller, rfl, rfl, rfl, rfl⟩, ?_, ?_⟩
  · rw [World.accept, World.feed_of_waits hstep (World.findSome?_of_waits ..) hoperation,
      show (World.ofEngine e 0).now = 0 from rfl, reschedule_start]
    simp [World.wakePoller, World.ofEngine, hpoller, Poller.start, Poller.hasExited, world,
      Table.insert, wake?, start, Timetable.answeredAt]
    rfl
  · rw [Engine.registry_keep]
    exact known
  · rw [Engine.registry_keep]
    exact unheard

/-! ## Moving on -/

/-- What the operation can do comes first. -/
theorem tick_of_operation {w : World Nat}
    (h : (x.world s e).actOperation x.backend x.id (x.schedule s) = some w) :
    (x.world s e).tick x.backend = some w := by
  unfold World.tick
  rw [act_world, h]
  rfl

/-- What it hears, it is told. -/
theorem tick_of_signal (h : x.Shows s e) {signal : Signal}
    (hears : x.signal? s = some signal)
    (underWay : s.stage = .transferring → s.arrived = false → s.now < x.moved) :
    (x.world s e).tick x.backend = some (x.told s e signal) := by
  apply tick_of_operation
  rw [actOperation_world h, if_neg, hears]
  · rfl
  · rintro ⟨hstage, harrived, hdue⟩
    have := underWay hstage harrived
    omega

namespace Idle

theorem signal?_eq (idle : x.Idle s) :
    x.signal? s = if x.limit ≤ s.now then some .limitOver else none := by
  unfold signal? ripe?
  rw [if_neg, if_neg, if_neg]
  · rintro ⟨hstage, hdue⟩
    have := idle.graced hstage
    omega
  · rintro ⟨hstage, hexited⟩
    exact idle.polled hstage hexited
  · rintro ⟨hstage, harrived, hdone⟩
    rw [idle.unmoved hstage harrived] at hdone
    cases hdone

/-- An operation that can do nothing before its limit does nothing. -/
theorem actOperation_eq_none (idle : x.Idle s) (h : x.Shows s e) (early : s.now < x.limit) :
    (x.world s e).actOperation x.backend x.id (x.schedule s) = none := by
  rw [actOperation_world h, if_neg, idle.signal?_eq, if_neg (Nat.not_le.mpr early)]
  · rfl
  · rintro ⟨hstage, harrived, hdue⟩
    have := idle.underWay hstage harrived
    omega

/-- Then it is the turn of the poller. -/
theorem act_eq (idle : x.Idle s) (h : x.Shows s e) (early : s.now < x.limit) :
    (x.world s e).act x.backend = (x.wake? s).bind ((x.world s e).actPoller x.backend x.id) := by
  rw [act_world, idle.actOperation_eq_none h early]
  rfl

end Idle

/-- What a poller does whose time has come. -/
theorem tick_of_poller {t : Nat} {w : World Nat} (h : x.Shows s e) (idle : x.Idle s)
    (early : s.now < x.limit) (hwake : x.wake? s = some t)
    (hact : (x.world s e).actPoller x.backend x.id t = some w) :
    (x.world s e).tick x.backend = some w := by
  unfold World.tick
  rw [idle.act_eq h early, hwake, Option.bind_some, hact]

/-- At a tick the world of an engine goes on to that of another, in which another standing
shows. -/
def MovesTo (x : Prospect) (s : Standing) (e : Engine) (s' : Standing) : Prop :=
  ∃ e', (x.world s e).tick x.backend = some (x.world s' e') ∧ x.Shows s' e'

/-- It does so when the operation goes on with what it hears. -/
theorem movesTo_of_signal (h : x.Shows s e) {signal : Signal} {stage : ConfirmationStage}
    (hears : x.signal? s = some signal)
    (underWay : s.stage = .transferring → s.arrived = false → s.now < x.moved)
    (advance : (x.confirmation s.stage).advance signal = some (.continues (x.confirmation stage)))
    (admits : e.admits x.id signal) (hstage : stage ≠ .transferring) (hbefore : s.stage ≠ .joining)
    (times : World.reschedule x.backend (x.world s e) (x.operation stage) (x.schedule s) =
      x.schedule { s with stage := stage, arrived := false }) :
    x.MovesTo s e { s with stage := stage, arrived := false } := by
  obtain ⟨e', htold, hshows⟩ := told_continues h advance admits hstage hbefore times
  refine ⟨e', ?_, hshows⟩
  rw [tick_of_signal h hears underWay, htold]

theorem movesTo_of_moved (h : x.Shows s e) (stage : s.stage = .transferring)
    (arrived : s.arrived = true) (done : x.timetable.transferTime = some s.now)
    (succeeds : x.timetable.succeeds) :
    x.MovesTo s e { s with stage := .settling, arrived := false } := by
  have hnow : s.now = x.moved := by simp [Prospect.moved, done]
  have hsignal : x.signal? s = some (.answered (.moved true)) := by
    simp [signal?, stage, arrived, done, succeeds]
  have hadvance : (x.confirmation s.stage).advance (.answered (.moved true)) =
      some (.continues (x.confirmation .settling)) := by
    simp [Confirmation.advance, confirmation, stage, TransferAction.outcome]
  exact movesTo_of_signal h hsignal (by simp [arrived]) hadvance rfl (by simp) (by simp [stage])
    (reschedule_moved stage hnow e)

theorem movesTo_of_graceOver (h : x.Shows s e) (stage : s.stage = .settling)
    (polled : s.poller ≠ .exited) (due : s.now = x.moved + x.grace) :
    x.MovesTo s e { s with stage := .joining, arrived := false } := by
  have hsignal : x.signal? s = some .graceOver := by simp [signal?, ripe?, stage, polled, due]
  have hadvance : (x.confirmation s.stage).advance .graceOver =
      some (.continues (x.confirmation .joining)) := by
    simp [Confirmation.advance, confirmation, stage]
  exact movesTo_of_signal h hsignal (by simp [stage]) hadvance rfl (by simp) (by simp [stage])
    (reschedule_graceOver stage due e)

/-- It does so when the poller is woken, while the operation has nothing to do. -/
theorem movesTo_of_poller {s' : Standing} {signal : PollerSignal} {again t : Nat}
    (h : x.Shows s e) (idle : x.Idle s) (early : s.now < x.limit) (hwake : x.wake? s = some t)
    (hact : (x.world s e).actPoller x.backend x.id t =
      some (World.rouse { x.world s e with site := s'.asked } x.id signal again))
    (hshows : x.Shows s' (e.step (.woken x.id signal)).1) (hnow : s'.now = s.now)
    (hschedule : x.schedule s' = x.schedule s) (hagain : ∀ t ∈ x.wake? s', t = s.now + again) :
    x.MovesTo s e s' := by
  refine ⟨_, tick_of_poller h idle early hwake ?_, hshows⟩
  rw [hact, rouse_world hshows hnow hschedule hagain]

theorem movesTo_of_hears (h : x.Shows s e) (idle : x.Idle s) (early : s.now < x.limit)
    (stage : s.stage ≠ .joining) (poller : s.poller = .asking)
    (due : s.now = x.timetable.answeredAt x.pause s.asked) :
    x.MovesTo s e
      { s with
        poller := if x.timetable.isTerminal s.asked then .exited else .resting
        asked := s.asked + 1 } := by
  have hwake : x.wake? s = some (x.timetable.answeredAt x.pause s.asked) := by
    simp [wake?, poller]
  refine movesTo_of_poller h idle early hwake
    (actPoller_asking h stage poller (Nat.le_of_eq due.symm)) (shows_hears h stage poller) rfl rfl
    fun t ht => ?_
  cases hterminal : x.timetable.isTerminal s.asked with
  | true => simp [wake?, hterminal] at ht
  | false =>
      simp [wake?, hterminal, Timetable.answeredAt_succ] at ht
      omega

theorem movesTo_of_asks (h : x.Shows s e) (idle : x.Idle s) (early : s.now < x.limit)
    (stage : s.stage ≠ .joining) (poller : s.poller = .resting)
    (due : s.now + x.timetable.queryDelay = x.timetable.answeredAt x.pause s.asked) :
    x.MovesTo s e { s with poller := .asking } := by
  have hshows := shows_woken h fun _ => poller
  have hwake : x.wake? s =
      some (x.timetable.answeredAt x.pause s.asked - x.timetable.queryDelay) := by
    simp [wake?, poller]
  rw [if_neg stage] at hshows
  refine movesTo_of_poller h idle early hwake (actPoller_resting h stage poller (by omega)) hshows
    rfl rfl fun t ht => ?_
  simp [wake?] at ht
  omega

theorem movesTo_of_stops (h : x.Shows s e) (idle : x.Idle s) (early : s.now < x.limit)
    (stage : s.stage = .joining) : x.MovesTo s e { s with poller := .exited } := by
  have hshows := shows_woken h fun hne => absurd stage hne
  rw [if_pos stage] at hshows
  obtain ⟨t, hwake⟩ : ∃ t, x.wake? s = some t := by
    have hpolled := idle.polled (by simp [stage])
    cases hpoller : s.poller <;> simp [wake?, hpoller] at hpolled ⊢
  exact movesTo_of_poller h idle early hwake (actPoller_joining h stage t) hshows rfl rfl
    fun t ht => by cases ht

/-- When there is nothing to do for either, the clock moves. -/
theorem movesTo_of_waits {due : Nat} (h : x.Shows s e) (idle : x.Idle s) (early : s.now < x.limit)
    (stage : s.stage ≠ .joining) (sleeps : ∀ t ∈ x.wake? s, s.now < t)
    (next : ((x.instants s).filter (s.now < ·)).min? = some due) :
    x.MovesTo s e { s with now := due } := by
  have hact : (x.world s e).act x.backend = none := by
    rw [idle.act_eq h early]
    cases hwake : x.wake? s with
    | none => rfl
    | some t => exact actPoller_sleeping h stage (sleeps t hwake)
  have hnext : (x.world s e).nextDue? = some due := by
    refine Eq.trans ?_ next
    cases hwake : x.wake? s <;> simp [World.nextDue?, world, instants, hwake]
  refine ⟨e, ?_, h.operation, h.poller, h.known, h.noted⟩
  unfold World.tick
  rw [hact, hnext]
  rfl

/-- **One move of the world.**  The world moves as its standing does. -/
theorem tick_of_move {s' : Standing} (hmove : x.Move s s') (h : x.Shows s e) :
    x.MovesTo s e s' := by
  cases hmove with
  | arrives stage underWay due =>
      refine ⟨e, tick_of_operation ?_, h.operation, h.poller, h.known, h.noted⟩
      rw [actOperation_world h, if_pos ⟨stage, underWay, due⟩]
  | moved stage arrived done succeeds => exact movesTo_of_moved h stage arrived done succeeds
  | graceOver stage polled due => exact movesTo_of_graceOver h stage polled due
  | hears idle early stage poller due => exact movesTo_of_hears h idle early stage poller due
  | asks idle early stage poller due => exact movesTo_of_asks h idle early stage poller due
  | stops idle early stage => exact movesTo_of_stops h idle early stage
  | waits idle early stage sleeps next => exact movesTo_of_waits h idle early stage sleeps next

/-- **The last move of the world.**  The world comes to its end as its standing
does. -/
theorem tick_of_closes {resolution : Resolution} (hcloses : x.Closes s resolution)
    (h : x.Shows s e) :
    ∃ w, (x.world s e).tick x.backend = some w ∧ x.Over resolution s.now w := by
  cases hcloses with
  | failed stage arrived done fails =>
      have hsignal : x.signal? s = some (.answered (.moved false)) := by
        simp [signal?, stage, arrived, done, fails]
      have hadvance : (x.confirmation s.stage).advance (.answered (.moved false)) =
          some (.failed ⟨x.action, x.object⟩) := by
        simp [Confirmation.advance, confirmation, stage, TransferAction.outcome]
      exact ⟨_, tick_of_signal h hsignal (by simp [arrived]), told_ends h hadvance rfl rfl⟩
  | timedOut idle late =>
      have hsignal : x.signal? s = some .limitOver := by rw [idle.signal?_eq, if_pos late]
      have hadvance : (x.confirmation s.stage).advance .limitOver = some .timedOut := rfl
      exact ⟨_, tick_of_signal h hsignal idle.underWay, told_ends h hadvance rfl rfl⟩
  | settled stage exited =>
      have hsignal : x.signal? s = some .pollerExited := by simp [signal?, ripe?, stage, exited]
      have hadvance : (x.confirmation s.stage).advance .pollerExited = some .settled := by
        simp [Confirmation.advance, confirmation, stage]
      have hadmits : e.admits x.id .pollerExited := by
        simp [Engine.admits, h.pollerExited, exited]
      exact ⟨_, tick_of_signal h hsignal fun hmoving => absurd hmoving stage,
        told_ends h hadvance rfl hadmits⟩

/-- An operation that is over stays so in the course of time. -/
theorem course_over (x : Prospect) (resolution : Resolution) (endedAt : Nat) :
    World.Course x.backend fun w after => x.Over resolution endedAt w →
      x.Over resolution endedAt after where
  refl _ h := h
  trans h₁ h₂ h := h₂ (h₁ h)
  act := by
    rintro w after hact ⟨outcome, houtcome, hschedules, hending⟩
    have hnone : w.actOperations x.backend = none := by
      simp [World.actOperations, World.numbered, hschedules]
    rw [World.act, hnone] at hact
    obtain ⟨entry, _, hentry⟩ := List.exists_of_findSome?_eq_some hact
    obtain ⟨hsame, hendings⟩ := World.schedules_endings_actPoller hentry
    exact ⟨outcome, houtcome, hsame ▸ hschedules, hendings ▸ hending⟩
  clock _ _ h := h

end Prospect

end SnapshotEngine
