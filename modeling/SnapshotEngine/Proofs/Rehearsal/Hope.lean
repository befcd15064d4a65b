import SnapshotEngine.Proofs.Engine.Confirmation
import SnapshotEngine.Proofs.Rehearsal.Alone
import SnapshotEngine.Proofs.Rehearsal.Leeway

/-!
# Hope of success

An operation by itself may still succeed until a deadline comes.  A deadline that comes
before the poller has heard that the job is done takes away all hope: the poller is
cancelled and hears nothing more, or the time is over.

* `Hopeful`, `Hopeful.act` — the poller was not cancelled, and so it stays until the
  operation is over or a deadline comes;
* `hopeful_order` — so it is from the order on;
* `Joined`, `Hopeless.iterate` — once its poller is cancelled before it has heard that
  the job is done, an operation does not succeed;
* `Hopeful.lapses` — that is what any deadline comes to.
-/

namespace SnapshotEngine

variable {σ : Type}

/-- The collaborators accept a job only as the one that was ordered. -/
def Backend.KeepsJobs (b : Backend σ) : Prop :=
  ∀ site call job after, b.answer? site call = some (.accepted (.ok job), after) →
    call.job? = some job

namespace Engine

/-- An engine that has come about in a run in which all jobs were kept. -/
def Reached (e : Engine) : Prop :=
  ∃ r stimuli events, Trace r stimuli e events ∧ KeepsJobs events

/-- A run goes on with a stimulus that keeps the job. -/
theorem Reached.step {e : Engine} (h : e.Reached) {s : Stimulus}
    (keeps : ∀ id op call job, s = .signalled id (.answered (.accepted (.ok job))) →
      e.operations.get? id = some op → op.call? = some call → call.job? = some job) :
    (e.step s).1.Reached := by
  obtain ⟨r, stimuli, events, htrace, hkeeps⟩ := h
  refine ⟨r, _, _, htrace.step s, fun event hmem => ?_⟩
  rcases List.mem_append.mp hmem with hpast | hnow
  · exact hkeeps event hpast
  cases event with
  | answered id call answer =>
      obtain ⟨hs, op, found, waits⟩ := (effect_step e s).of_answered hnow
      cases answer with
      | accepted result =>
          cases result with
          | ok job => simpa [Event.keepsJob] using keeps id op call job hs found waits
          | error cause => rfl
      | _ => rfl
  | _ => rfl

end Engine

namespace World

/-- **Run.**  In the course of time an engine stays one that has come about in a run. -/
theorem course_reached {b : Backend σ} (hb : b.KeepsJobs) :
    Course b fun w after => w.engine.Reached → after.engine.Reached where
  refl _ h := h
  trans h₁ h₂ h := h₂ (h₁ h)
  clock _ _ h := h
  act := by
    intro w after hact h
    cases effect_act hact with
    | ripe ripe engine site =>
        rw [engine]
        refine h.step fun id op call job hs _ _ => ?_
        rcases of_ripeSignal? ripe with rfl | ⟨signal, rfl, hother⟩
        · cases hs
        · cases hs
          exact absurd rfl (hother _)
    | answered found waited answers engine =>
        rw [engine]
        refine h.step fun id op call job hs hfound hwaits => ?_
        cases hs
        cases found.symm.trans hfound
        cases waited.symm.trans hwaits
        exact hb _ _ _ _ answers
    | arrived engine site => exact engine ▸ h
    | woken engine site =>
        rw [engine]
        exact h.step fun _ _ _ _ hs => by cases hs
    | asked answers engine =>
        rw [engine]
        exact h.step fun _ _ _ _ hs => by cases hs

/-- An operation by itself whose poller was not cancelled: it has the deadlines that belong
to what it does. -/
structure Hopeful (id : Nat) (op : Operation) (schedule : Schedule) (w : World σ) : Prop
    extends Alone id op schedule w where
  limited : schedule.limitAt.isSome → op.confirmation?.isSome
  graced : schedule.graceAt.isSome → op.isSettling
  unjoined : op.isJoining = false

variable {b : Backend σ} {w after : World σ} {id : Nat} {op : Operation} {schedule : Schedule}

namespace Hopeful

/-- An operation that waits again, its poller not cancelled, may still succeed. -/
theorem waits (h : Hopeful id op schedule w) {stimulus : Stimulus} {e : Engine}
    {events : List Event} {next : Operation} (hstep : w.engine.step stimulus = (e, events))
    (hevents : events.findSome? ending? = none) (hnext : e.operations.get? id = some next)
    (confirms : op.confirmation?.isSome → next.confirmation?.isSome)
    (settles : schedule.graceAt.isSome → next.isSettling) (unjoined : next.isJoining = false) :
    Hopeful id next (w.reschedule b next schedule) (w.feed b id schedule stimulus) := by
  refine ⟨h.toAlone.waits hstep hevents hnext, ?_, ?_, unjoined⟩
  · intro hlimit
    cases hbefore : schedule.limitAt with
    | some t => exact confirms (h.limited (by simp [hbefore]))
    | none => simpa [reschedule, hbefore] using hlimit
  · intro hgrace
    cases hbefore : schedule.graceAt with
    | some t => exact settles (by simp [hbefore])
    | none =>
        by_contra hsettling
        simp [reschedule, hbefore, hsettling] at hgrace

theorem confirming (h : Hopeful id op schedule w) (hgrace : schedule.graceAt.isSome) :
    op.confirmation?.isSome := by
  have hsettling := h.graced hgrace
  unfold Operation.isSettling at hsettling
  cases hc : op.confirmation? with
  | some c => rfl
  | none => simp [hc] at hsettling

/-- With whatever an operation goes on but the end of the grace, it may still succeed, or
it is over. -/
theorem feed (h : Hopeful id op schedule w) {signal : Signal} (hsignal : signal ≠ .graceOver) :
    (∃ next later, Hopeful id next later (w.feed b id schedule (.signalled id signal))) ∨
      Closed id (w.feed b id schedule (.signalled id signal)) := by
  have heffect := Engine.effect_step w.engine (.signalled id signal)
  generalize hstep : w.engine.step (.signalled id signal) = result at heffect
  obtain ⟨e, events⟩ := result
  dsimp only at heffect
  cases heffect with
  | idle unordered =>
      exact .inl ⟨_, _, h.waits hstep rfl h.found (fun hc => hc) h.graced h.unjoined⟩
  | ended found admits resume =>
      right
      rw [feed_of_ended hstep (findSome?_of_ended ..)]
      exact ⟨_, (Table.get?_insert ..).trans (if_pos rfl)⟩
  | wentOn found admits resume =>
      left
      rename_i was next r
      obtain rfl : op = was := Option.some.inj (h.found.symm.trans found)
      have hkeeps := h.waits (b := b) hstep (findSome?_of_waits ..)
        (Engine.get?_operations_keep_self ..)
      have hungraced : op.confirmation? = none → schedule.graceAt.isSome → next.isSettling := by
        intro hbefore hgrace
        have hsome := h.confirming hgrace
        rw [hbefore] at hsome
        cases hsome
      cases Operation.goesOn_of_resume resume with
      | approached before after kept =>
          refine ⟨_, _, hkeeps ?_ (hungraced before) ?_⟩
          · simp [before]
          · simp [Operation.isJoining, after]
      | took free after holds unknown takes =>
          have hbefore := Operation.confirmation?_of_free free
          refine ⟨_, _, hkeeps ?_ (hungraced hbefore) ?_⟩
          · simp [hbefore]
          · simp [Operation.isJoining, after]
      | accepted before waited ordered kept after handle stage =>
          refine ⟨_, _, hkeeps ?_ (hungraced before) ?_⟩
          · simp [before]
          · simp [Operation.isJoining, after, stage]
      | continued before after advance kept =>
          rcases Confirmation.advance_eq_continues advance with ⟨_, hstage, rfl⟩ | ⟨hgrace, _⟩
          · refine ⟨_, _, hkeeps ?_ ?_ ?_⟩
            · simp [after]
            · simp [Operation.isSettling, after]
            · simp [Operation.isJoining, after]
          · exact absurd hgrace hsignal

/-- **One step.**  Unless a deadline has come, the operation may still succeed, or it is
over. -/
theorem act (h : Hopeful id op schedule w) (hact : w.act b = some after)
    (early : ¬ w.Lapses b id schedule) :
    (∃ next later, Hopeful id next later after) ∨ Closed id after := by
  rw [act_of_scheduled h.scheduled] at hact
  cases hoperation : w.actOperation b id schedule with
  | none =>
      rw [hoperation] at hact
      obtain ⟨entry, hmem, hentry⟩ := List.exists_of_findSome?_eq_some hact
      have hkey : entry.1 = id := h.awake entry (mem_numbered.mp hmem)
      rw [hkey] at hentry
      exact .inl ⟨op, schedule, h.toAlone.actPoller hentry, h.limited, h.graced, h.unjoined⟩
  | some found =>
      rw [hoperation] at hact
      cases hact
      rcases answer_or_arrival_or_stalled b w op schedule with
        ⟨call, answer, site, waits, arrived, answers⟩ | ⟨call, waits, underWay, due⟩ | stalled
      · rw [actOperation_of_answer h.found waits arrived answers] at hoperation
        cases hoperation
        have hsite : Hopeful id op schedule { w with site := site } :=
          ⟨h.toAlone.visit site, h.limited, h.graced, h.unjoined⟩
        exact hsite.feed nofun
      · rw [actOperation_of_arrival h.found waits underWay due] at hoperation
        cases hoperation
        exact .inl ⟨op, { schedule with arrived := true }, h.toAlone.arrival _, h.limited,
          h.graced, h.unjoined⟩
      · have hripe := actOperation_of_stalled h.found stalled
        rw [hripe] at hoperation
        obtain ⟨stimulus, hstimulus, rfl⟩ := Option.map_eq_some_iff.mp hoperation
        rcases signal_of_ripeSignal? h.unhurried hstimulus with ⟨signal, rfl⟩
        refine h.feed fun hgrace => early ⟨op, signal, h.found, .inl hgrace, hstimulus, ?_⟩
        rw [hripe, hstimulus]
        rfl

end Hopeful

/-- What is ordered by itself may succeed, or is over. -/
theorem hopeful_order (b : Backend σ) (hschedules : w.schedules.entries = [])
    (hwake : w.wakeAt.entries = []) (hrunning : w.endings.get? w.engine.next = none)
    (settings : Settings) (order : Order) :
    (∃ op schedule, Hopeful w.engine.next op schedule (w.order b settings order none)) ∨
      Closed w.engine.next (w.order b settings order none) := by
  cases hstart : Operation.start w.engine.registry settings order with
  | ends r outcome =>
      right
      have hstep : w.engine.step (.ordered settings order) =
          ({ w.engine with next := w.engine.next + 1, registry := r },
            [.ended w.engine.next outcome]) := by
        simp [Engine.step, Engine.order, hstart]
      rw [World.order, feed_of_ended hstep rfl]
      exact ⟨_, (Table.get?_insert ..).trans (if_pos rfl)⟩
  | waits r op =>
      left
      have hconfirmation := (Operation.start_waits hstart).2.1
      refine ⟨op, _, alone_order b hschedules hwake hrunning hstart, ?_, ?_, ?_⟩
      · simp [starting, reschedule, hconfirmation]
      · simp [starting, reschedule, Operation.isSettling, hconfirmation]
      · simp [Operation.isJoining, hconfirmation]

/-! ## Without hope -/

/-- An operation whose poller was cancelled before it heard that the job is done. -/
structure Joined (id : Nat) (op : Operation) (c : Confirmation) (schedule : Schedule)
    (w : World σ) : Prop extends Alone id op schedule w where
  confirms : op.confirmation? = some c
  joining : c.stage = .joining
  cancelled : ∀ p, w.engine.pollers.get? id = some p → p.cancelled
  undone : w.engine.registry.statusOf c.job ≠ .done

/-- An operation is over, and has not succeeded. -/
def Failed (id : Nat) (w : World σ) : Prop :=
  ∃ ending, w.endings.get? id = some ending ∧ ∀ success, ending.outcome ≠ some (.ok success)

/-- An operation has not succeeded and will not. -/
def Hopeless (id : Nat) (w : World σ) : Prop :=
  (∃ op c schedule, Joined id op c schedule w) ∨ Failed id w

/-- An operation that has failed is over. -/
theorem failed_of_ended {e : Engine} {events : List Event} {stimulus : Stimulus} {cause : Failure}
    (hstep : w.engine.step stimulus = (e, events))
    (hevents : events.findSome? ending? = some (some (.error cause))) :
    Failed id (w.feed b id schedule stimulus) := by
  rw [feed_of_ended hstep hevents]
  refine ⟨_, (Table.get?_insert ..).trans (if_pos rfl), fun success h => ?_⟩
  cases h

namespace Joined

variable {c : Confirmation}

/-- Whatever it hears, it is without hope. -/
theorem feed (h : Joined id op c schedule w) (signal : Signal) :
    Hopeless id (w.feed b id schedule (.signalled id signal)) := by
  have heffect := Engine.effect_step w.engine (.signalled id signal)
  generalize hstep : w.engine.step (.signalled id signal) = result at heffect
  obtain ⟨e, events⟩ := result
  dsimp only at heffect
  cases heffect with
  | idle unordered =>
      left
      refine ⟨op, c, _, h.toAlone.waits hstep rfl h.found, h.confirms, h.joining, ?_, ?_⟩
      · simpa [hstep] using h.cancelled
      · simpa [hstep] using h.undone
  | wentOn found admits resume =>
      rename_i was next r
      obtain rfl : op = was := Option.some.inj (h.found.symm.trans found)
      have hnever : op.confirmation? ≠ none := by simp [h.confirms]
      cases Operation.goesOn_of_resume resume with
      | approached before after kept => exact absurd before hnever
      | took free after holds unknown takes =>
          exact absurd (Operation.confirmation?_of_free free) hnever
      | accepted before waited ordered kept after handle stage => exact absurd before hnever
      | continued before after advance kept =>
          cases h.confirms.symm.trans before
          have hjoining := h.joining
          rcases Confirmation.advance_eq_continues advance with ⟨_, hstage, _⟩ | ⟨_, hstage, _⟩
          · rw [hstage] at hjoining
            cases hjoining
          · rw [hstage] at hjoining
            cases hjoining
  | ended found admits resume =>
      rename_i was r outcome
      obtain rfl : op = was := Option.some.inj (h.found.symm.trans found)
      right
      have hevents := findSome?_of_ended id op signal outcome
      cases Operation.ends_of_resume resume with
      | failed undecided => exact failed_of_ended hstep hevents
      | unconfirmed transfer advance status decided => exact failed_of_ended hstep hevents
      | backedUp stage advance status =>
          have hc := h.confirms
          simp only [Operation.confirmation?, stage, Option.some.injEq] at hc
          subst hc
          exact absurd status h.undone
      | restored stage advance status =>
          have hc := h.confirms
          simp only [Operation.confirmation?, stage, Option.some.injEq] at hc
          subst hc
          exact absurd status h.undone
      | deleted stage => cases h.confirms

/-- A poller that was cancelled gives no hope. -/
theorem actPoller (h : Joined id op c schedule w) {due : Nat}
    (hact : w.actPoller b id due = some after) : Joined id op c schedule after := by
  obtain ⟨p, site, signal, again, hp, rfl, hwoken⟩ := exists_rouse_of_actPoller hact
  have hcancelled := h.cancelled p hp
  obtain rfl := hwoken hcancelled
  have hstep : (w.engine.step (.woken id .woken)).1 =
      { w.engine with pollers := w.engine.pollers.insert id (p.advance .woken) } := by
    simp [Engine.step, Engine.wake, hp, Poller.noted?, Poller.served?]
  refine ⟨h.toAlone.actPoller hact, h.confirms, h.joining, ?_, ?_⟩
  · intro q hq
    simp only [rouse, hstep, Table.get?_insert, if_true, Option.some.injEq] at hq
    rw [← hq, Poller.cancelled_advance]
    exact hcancelled
  · simpa [rouse, hstep] using h.undone

/-- **One step.**  It stays without hope. -/
theorem tick (h : Joined id op c schedule w)
    (htick : w.tick b = some after) : Hopeless id after := by
  have hcall : op.call? = none := by
    rw [Operation.call?_of_confirmation h.confirms, Confirmation.call?_eq, if_neg]
    simp [h.joining]
  have hstalled : w.Stalled b op schedule := fun call hwaits => by
    rw [hcall] at hwaits
    cases hwaits
  unfold World.tick at htick
  rw [act_of_scheduled h.scheduled, actOperation_of_stalled h.found hstalled] at htick
  cases hripe : w.ripeSignal? id op schedule with
  | some stimulus =>
      obtain ⟨signal, rfl⟩ := signal_of_ripeSignal? h.unhurried hripe
      rw [hripe] at htick
      cases htick
      exact h.feed signal
  | none =>
      rw [hripe] at htick
      left
      cases hpollers : w.actPollers b with
      | none =>
          simp only [hpollers, Option.map_none, Option.none_or, Option.orElse_eq_orElse,
            Option.orElse_eq_or] at htick
          obtain ⟨due, _, rfl⟩ := Option.map_eq_some_iff.mp htick
          exact ⟨op, c, schedule, h.toAlone.clock due, h.confirms, h.joining, h.cancelled,
            h.undone⟩
      | some found =>
          simp only [hpollers, Option.map_none, Option.none_or, Option.orElse_eq_orElse,
            Option.orElse_eq_or] at htick
          cases htick
          obtain ⟨entry, hmem, hentry⟩ := List.exists_of_findSome?_eq_some hpollers
          have hkey : entry.1 = id := h.awake entry (mem_numbered.mp hmem)
          rw [hkey] at hentry
          exact ⟨op, c, schedule, h.actPoller hentry⟩

end Joined

theorem Hopeless.not_succeeded (h : Hopeless id w) (success : Success) (startedAt endedAt : Nat) :
    w.endings.get? id ≠ some ⟨some (.ok success), startedAt, endedAt⟩ := by
  rcases h with ⟨op, c, schedule, hjoined⟩ | ⟨ending, hending, hfails⟩
  · simp [hjoined.running]
  · intro hsucceeds
    cases hending.symm.trans hsucceeds
    exact hfails success rfl

/-- **Run.**  Without hope an operation does not succeed. -/
theorem Hopeless.iterate (h : Hopeless id w) (n : Nat) :
    Hopeless id (World.iterate (tickUntilOver b id) n w) := by
  induction n generalizing w with
  | zero => exact h
  | succ n ih =>
      unfold World.iterate
      split
      · rename_i after hnext
        have hover : ¬ w.areOver [id] := fun hover => by simp [tickUntilOver, hover] at hnext
        rw [tickUntilOver, if_neg hover] at hnext
        apply ih
        rcases h with ⟨op, c, schedule, hjoined⟩ | ⟨ending, hending, _⟩
        · exact hjoined.tick hnext
        · exact absurd (areOver_iff.mpr ⟨ending, hending⟩) hover
      · exact h

theorem of_ripeSignal?_graceOver
    (h : w.ripeSignal? id op schedule = some (.signalled id .graceOver)) :
    op.isSettling ∧ w.engine.pollerExited id = false := by
  unfold ripeSignal? at h
  split at h
  · cases h
  rename_i hstays
  split at h
  · rename_i hgrace
    have hsettling : op.isSettling := by simpa using (Bool.and_eq_true_iff.mp hgrace).1
    refine ⟨hsettling, ?_⟩
    simpa [hsettling] using hstays
  split at h
  · cases h
  split at h <;> cases h

theorem of_ripeSignal?_limitOver
    (h : w.ripeSignal? id op schedule = some (.signalled id .limitOver)) :
    schedule.limitAt.isSome := by
  unfold ripeSignal? at h
  split at h
  · cases h
  split at h
  · cases h
  split at h
  · rename_i hdue
    cases hlimit : schedule.limitAt with
    | some t => rfl
    | none => simp [isDue, hlimit] at hdue
  split at h <;> cases h

/-- An operation to whose poller nothing terminal was said has not heard that its job is
done. -/
theorem statusOf_ne_done (hreached : w.engine.Reached) {c : Confirmation}
    (found : w.engine.operations.get? id = some op) (confirms : op.confirmation? = some c)
    (running : w.engine.pollerExited id = false) :
    w.engine.registry.statusOf c.job ≠ .done := by
  obtain ⟨r, stimuli, events, htrace, hkeeps⟩ := hreached
  have hjob := Engine.jobsKept_trace htrace hkeeps id op c found confirms
  obtain ⟨_, hnoted⟩ := Engine.noted_trace htrace hkeeps id op c.job found hjob
  rw [hnoted]
  cases hp : w.engine.pollers.get? id with
  | none => simp [Engine.pollerExited, hp] at running
  | some p =>
      intro hdone
      cases hlast : lastHeard id events with
      | none => simp [hlast] at hdone
      | some status =>
          rw [hlast, Option.getD_some] at hdone
          subst hdone
          have hstopped := ((Engine.heard_trace htrace).stopped id p .done hp hlast rfl).1
          simp [Engine.pollerExited, hp, Poller.hasExited, hstopped] at running

/-- **The end of patience.**  When a deadline has come, there is no hope any more. -/
theorem Hopeful.lapses (h : Hopeful id op schedule w) (hreached : w.engine.Reached)
    (hlapses : w.Lapses b id schedule) :
    ∃ after, w.tick b = some after ∧ Hopeless id after := by
  obtain ⟨was, signal, found, hsignal, hripe, hact⟩ := hlapses
  obtain rfl : op = was := Option.some.inj (h.found.symm.trans found)
  refine ⟨_, by rw [World.tick, act_of_scheduled h.scheduled, hact]; rfl, ?_⟩
  rcases hsignal with rfl | rfl
  · left
    obtain ⟨hsettling, hrunning⟩ := of_ripeSignal?_graceOver hripe
    obtain ⟨c, hc, hstage⟩ := Operation.isSettling_iff.mp hsettling
    have hundone := statusOf_ne_done hreached found hc hrunning
    obtain ⟨job, hjob⟩ := Operation.exists_job?_of_confirmation hc
    have hadvance : c.advance .graceOver = some (.continues { c with stage := .joining }) := by
      simp [Confirmation.advance, hstage]
    have hresume := Operation.resume_confirm_continues hjob hadvance w.engine.registry
    rw [Operation.confirm_eq_self hc] at hresume
    have hnext := (Operation.confirmation?_call?_confirm hjob { c with stage := .joining }).1
    obtain ⟨halone, hengine⟩ := h.toAlone.goesOn (b := b) rfl hresume
    refine ⟨op.confirm { c with stage := .joining }, { c with stage := .joining }, _, halone, hnext,
      rfl, ?_, ?_⟩
    · intro p hp
      rw [hengine, Engine.get?_pollers_keep, hnext] at hp
      obtain ⟨q, _, rfl⟩ := Option.map_eq_some_iff.mp hp
      rfl
    · rw [hengine, Engine.registry_keep]
      exact hundone
  · right
    obtain ⟨c, hc⟩ := Option.isSome_iff_exists.mp (h.limited (of_ripeSignal?_limitOver hripe))
    obtain ⟨cause, hresume⟩ := Operation.resume_limitOver hc w.engine.registry
    exact failed_of_ended (Engine.step_ends found rfl hresume) (findSome?_of_ended ..)

end World

end SnapshotEngine
