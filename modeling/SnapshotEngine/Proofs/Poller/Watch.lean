import SnapshotEngine.Proofs.Poller.Inquiry
import SnapshotEngine.Proofs.Registry.Record

/-!
# A poller by itself

While nothing but one poller is at work very little of the world changes: the clock,
how far the poller has got, and how many questions were answered.  What stands in the
registry follows from that.

* `Watch`, `Inquiry.world` — how far the poller has got, and the world in which it has
  got that far;
* `tickToStop_world` — what happens next in that world;
* `iterate_world`, `iterate_tick_of_exited` — and so in any run, until it has stopped.
-/

namespace SnapshotEngine

variable {σ : Type}

namespace Registry

/-- Notes the last status that was heard of a job, if there is one. -/
def recordLast (r : Registry) (job : JobHandle) : Option JobStatus → Registry
  | some status => r.record job status
  | none => r

theorem recordLast_record (r : Registry) (job : JobHandle) (last : Option JobStatus)
    (status : JobStatus) : (r.recordLast job last).record job status = r.record job status := by
  cases last with
  | none => rfl
  | some earlier => exact record_record r job earlier status

/-- Only the volume of the job is touched, and only where nothing is heard is it left as
it was. -/
theorem volume?_recordLast (r : Registry) (job : JobHandle) (last : Option JobStatus)
    (name : String) :
    (r.recordLast job last).volume? name =
      if job.volumeId = name then
        (r.volume? name).map fun v => last.elim v (v.withStatus job.kind)
      else r.volume? name := by
  cases last with
  | none => simp [recordLast]
  | some status => exact volume?_record r job status name

theorem snapshots_held_recordLast (r : Registry) (job : JobHandle) (last : Option JobStatus) :
    (r.recordLast job last).snapshots = r.snapshots ∧ (r.recordLast job last).held = r.held := by
  cases last with
  | none => exact ⟨rfl, rfl⟩
  | some status => exact snapshots_held_record r job status

end Registry

namespace Engine

/-- An engine in which nothing but one poller is at work. -/
def lone (r : Registry) (id : Nat) (p : Poller) : Engine where
  registry := r
  operations := .empty
  pollers := ⟨[(id, p)]⟩
  next := 0

theorem get?_pollers_lone (r : Registry) (id : Nat) (p : Poller) :
    (lone r id p).pollers.get? id = some p := by
  simp [lone, Table.get?, Table.lookupIn]

theorem cancelPoller_lone (r : Registry) (id : Nat) (p : Poller) :
    (lone r id p).cancelPoller id = lone r id p.cancel := by
  simp [lone, cancelPoller, Table.modify]

/-- What a signal does to it. -/
theorem step_lone (r : Registry) (id : Nat) (p : Poller) (signal : PollerSignal) :
    ((lone r id p).step (.woken id signal)).1 =
      lone (r.recordLast p.job (p.noted? signal)) id (p.advance signal) := by
  have hpollers : (lone r id p).pollers.insert id (p.advance signal) =
      ⟨[(id, p.advance signal)]⟩ := by simp [lone, Table.insert]
  simp only [step, wake, get?_pollers_lone, hpollers]
  cases p.noted? signal <;> rfl

end Engine

/-- How far a poller by itself has got. -/
structure Watch where
  now : Nat
  /-- When it is next to be woken. -/
  due : Nat
  stage : PollerStage
  /-- How many questions were answered. -/
  asked : Nat
  cancelled : Bool
deriving DecidableEq, Repr

namespace Inquiry

variable {b : Backend σ} {job : JobHandle} (x : Inquiry b job) (r : Registry) (id : Nat)
  (pause : Duration)

/-- The poller, as far as it has got. -/
def poller (s : Watch) : Poller where
  job := job
  pause := pause
  stage := s.stage
  last := x.heard s.asked
  cancelled := s.cancelled

/-- The engine of the poller: in the registry stands what it has heard last. -/
def engine (s : Watch) : Engine :=
  .lone (r.recordLast job (x.heard s.asked)) id (x.poller pause s)

/-- The world of that engine. -/
def world (s : Watch) : World σ where
  engine := x.engine r id pause s
  site := x.site s.asked
  now := s.now
  schedules := .empty
  wakeAt := ⟨if s.stage = .exited then [] else [(id, s.due)]⟩
  endings := .empty

/-- Where a poller starts. -/
def start : Watch where
  now := 0
  due := x.latency.getD 0
  stage := .asking
  asked := 0
  cancelled := false

/-- What a poller does that is woken. -/
def wake? (s : Watch) : Option Watch :=
  if s.cancelled then some { s with stage := .exited }
  else if s.now < s.due then none
  else
    match s.stage with
    | .asking =>
        x.latency.map fun _ =>
          { s with
            due := s.now + pause.nanos
            stage := if x.isTerminal s.asked then .exited else .resting
            asked := s.asked + 1 }
    | .resting => some { s with due := s.now + x.latency.getD 0, stage := .asking }
    | .exited => none

/-- What happens next before an instant, unless the poller has stopped. -/
def next? (instant : Nat) (s : Watch) : Option Watch :=
  if s.stage = .exited ∨ instant ≤ s.now then none
  else
    match x.wake? pause s with
    | some after => some after
    | none => if s.now < s.due ∧ s.due < instant then some { s with now := s.due } else none

variable {x r id pause} {s s' : Watch}

/-! ## The world of a poller -/

theorem ofPoller_eq : World.ofPoller b r (x.site 0) id job pause = x.world r id pause x.start := by
  have hengine : ({ Engine.ofRegistry r with
      pollers := Table.empty.insert id (Poller.start job pause) } : Engine) =
      x.engine r id pause x.start := rfl
  have hpoller : (x.engine r id pause x.start).pollers.get? id = some (x.poller pause x.start) :=
    Engine.get?_pollers_lone ..
  have hunwoken : (World.ofEngine (x.engine r id pause x.start) (x.site 0)).wakeAt.get? id = none :=
    rfl
  have hdelay : b.queryDelay (World.ofEngine (x.engine r id pause x.start) (x.site 0)).site =
      x.latency.getD 0 := x.queryDelay_site 0
  simp only [World.ofPoller, hengine, World.wakePoller]
  rw [show (World.ofEngine (x.engine r id pause x.start) (x.site 0)).engine.pollers.get? id =
    some (x.poller pause x.start) from hpoller, hunwoken, hdelay]
  simp [World.ofEngine, Poller.hasExited, poller, world, start, Table.insert, Table.empty]

theorem hasStopped_world :
    (x.world r id pause s).hasStopped id = decide (s.stage = .exited) := by
  simp only [World.hasStopped, Engine.pollerExited, world, engine, Engine.get?_pollers_lone,
    Option.map_some, Option.getD_some, Poller.hasExited, poller]
  cases s.stage <;> rfl

/-- A poller that is woken with an answer has it noted, and remembers it. -/
theorem step_answered (asking : s.stage = .asking) (live : s.cancelled = false) (due : Nat) :
    ((x.engine r id pause s).step (.woken id (.answered (x.answers s.asked)))).1 =
      x.engine r id pause
        { s with
          due := due
          stage := if x.isTerminal s.asked then .exited else .resting
          asked := s.asked + 1 } := by
  have hserved : ∀ answer, (x.poller pause s).served? (.answered answer) = some answer :=
    fun answer => if_pos ⟨asking, live⟩
  have hregistry : (r.recordLast job (x.heard s.asked)).recordLast job
      ((x.poller pause s).noted? (.answered (x.answers s.asked))) =
      r.recordLast job (x.heard (s.asked + 1)) := by
    unfold Poller.noted?
    rw [hserved, heard_succ]
    cases x.answers s.asked with
    | error cause => rfl
    | ok status => exact Registry.recordLast_record r job (x.heard s.asked) status
  have hpoller : (x.poller pause s).advance (.answered (x.answers s.asked)) =
      x.poller pause
        { s with
          due := due
          stage := if x.isTerminal s.asked then .exited else .resting
          asked := s.asked + 1 } := by
    unfold poller
    rw [heard_succ]
    cases hanswer : x.answers s.asked <;> simp [Poller.advance, asking, live, isTerminal, hanswer]
  unfold engine
  rw [Engine.step_lone, hpoller]
  exact congrArg (Engine.lone · id _) hregistry

/-- A poller that is woken otherwise asks again, or stops if it was cancelled. -/
theorem step_woken (h : s.cancelled = false → s.stage = .resting) (live : s.stage ≠ .exited)
    (due : Nat) :
    ((x.engine r id pause s).step (.woken id .woken)).1 =
      x.engine r id pause
        { s with due := due, stage := if s.cancelled then .exited else .asking } := by
  have hadvance : (x.poller pause s).advance .woken =
      { x.poller pause s with stage := if s.cancelled then .exited else .asking } := by
    cases hcancelled : s.cancelled with
    | true => simp [Poller.advance, poller, live, hcancelled]
    | false => simp [Poller.advance, poller, h hcancelled, hcancelled]
  unfold engine
  rw [Engine.step_lone, hadvance]
  rfl

/-- A poller is to be woken again, unless it has stopped. -/
theorem rouse_world {signal : PollerSignal} {again : Nat} (live : s.stage ≠ .exited)
    (hengine : ((x.engine r id pause s).step (.woken id signal)).1 = x.engine r id pause s')
    (hnow : s'.now = s.now) (hdue : s'.stage ≠ .exited → s'.due = s.now + again) :
    World.rouse { x.world r id pause s with site := x.site s'.asked } id signal again =
      x.world r id pause s' := by
  have hpoller : (x.engine r id pause s').pollers.get? id = some (x.poller pause s') :=
    Engine.get?_pollers_lone ..
  have hexited : (x.poller pause s').hasExited = decide (s'.stage = .exited) := by
    cases hstage : s'.stage <;> simp [Poller.hasExited, poller, hstage]
  by_cases hstage : s'.stage = .exited
  · simp [World.rouse, world, hengine, hpoller, hexited, hstage, live, hnow, Table.erase]
  · simp [World.rouse, world, hengine, hpoller, hexited, hstage, live, hnow, hdue hstage,
      Table.insert]

theorem actPoller_world (live : s.stage ≠ .exited) :
    (x.world r id pause s).actPoller b id s.due =
      (x.wake? pause s).map (x.world r id pause) := by
  have hpoller : (x.world r id pause s).engine.pollers.get? id = some (x.poller pause s) :=
    Engine.get?_pollers_lone ..
  have hnow : (x.world r id pause s).now = s.now := rfl
  unfold World.actPoller wake?
  rw [hpoller, hnow]
  dsimp only [poller]
  by_cases hcancelled : s.cancelled
  · rw [if_pos hcancelled, if_pos hcancelled, Option.map_some]
    have hstep : ((x.engine r id pause s).step (.woken id .woken)).1 = _ :=
      step_woken (by simp [hcancelled]) live s.due
    rw [if_pos hcancelled] at hstep
    exact congrArg some (rouse_world live hstep rfl (by simp))
  rw [if_neg hcancelled, if_neg hcancelled]
  by_cases hdue : s.now < s.due
  · rw [if_pos hdue, if_pos hdue]
    rfl
  rw [if_neg hdue, if_neg hdue]
  cases hstage : s.stage with
  | exited => exact absurd hstage live
  | resting =>
      have hstep : ((x.engine r id pause s).step (.woken id .woken)).1 = _ :=
        step_woken (fun _ => hstage) live (s.now + x.latency.getD 0)
      have hdelay : b.queryDelay (x.world r id pause s).site = x.latency.getD 0 :=
        x.queryDelay_site s.asked
      rw [if_neg hcancelled] at hstep
      rw [hdelay]
      exact congrArg some (rouse_world live hstep rfl (fun _ => rfl))
  | asking =>
      have hasked : b.ask? (x.world r id pause s).site job =
          x.latency.map fun _ => (.answered (x.answers s.asked), x.site (s.asked + 1)) :=
        x.ask_site s.asked
      have hstep :
          ((x.engine r id pause s).step (.woken id (.answered (x.answers s.asked)))).1 = _ :=
        step_answered hstage (by simpa using hcancelled) (s.now + pause.nanos)
      have hrouse := rouse_world live hstep rfl (fun _ => rfl)
      rw [hasked]
      cases hlatency : x.latency with
      | none => rfl
      | some q => exact congrArg some hrouse

/-- Only the poller can do anything. -/
theorem act_world : (x.world r id pause s).act b =
    if s.stage = .exited then none else (x.wake? pause s).map (x.world r id pause) := by
  have hoperations : (x.world r id pause s).actOperations b = none := by
    simp [World.actOperations, World.numbered, world]
  have hpollers : (x.world r id pause s).actPollers b =
      if s.stage = .exited then none else (x.world r id pause s).actPoller b id s.due := by
    by_cases h : s.stage = .exited <;> simp [World.actPollers, World.numbered, world, h]
  unfold World.act
  rw [hoperations, hpollers]
  by_cases h : s.stage = .exited
  · rw [if_pos h, if_pos h]
    rfl
  · rw [if_neg h, if_neg h, actPoller_world h]
    rfl

theorem nextDue?_world (live : s.stage ≠ .exited) :
    (x.world r id pause s).nextDue? = if s.now < s.due then some s.due else none := by
  by_cases hdue : s.now < s.due <;> simp [World.nextDue?, world, live, hdue]

/-- **One step.**  The world of a poller does what the poller does. -/
theorem tickToStop_world (instant : Nat) :
    (x.world r id pause s).tickToStop b id instant =
      (x.next? pause instant s).map (x.world r id pause) := by
  unfold World.tickToStop World.tickBefore next?
  rw [hasStopped_world, act_world]
  by_cases hstage : s.stage = .exited
  · simp [hstage]
  have hnow : (x.world r id pause s).now = s.now := rfl
  by_cases hover : instant ≤ s.now
  · simp [hstage, hover, hnow]
  rw [nextDue?_world hstage, hnow]
  simp only [hstage, hover, decide_false, Bool.false_eq_true, if_false, or_self,
    if_pos (Nat.not_le.mp hover)]
  cases hwake : x.wake? pause s with
  | some after => rfl
  | none =>
      by_cases hdue : s.now < s.due
      · by_cases hlate : s.due < instant
        · simp [hdue, hlate, world, engine, poller]
        · simpa [hdue, hlate] using Nat.not_lt.mp hlate
      · simp [hdue]

/-- Where a poller stands after so many things have happened. -/
def run (x : Inquiry b job) (pause : Duration) (instant : Nat) : Nat → Watch → Watch
  | 0, s => s
  | n + 1, s =>
      match x.next? pause instant s with
      | some after => x.run pause instant n after
      | none => s

theorem run_of_next?_eq_none {instant : Nat} (h : x.next? pause instant s = none) (n : Nat) :
    x.run pause instant n s = s := by
  cases n with
  | zero => rfl
  | succ n => rw [run, h]

theorem run_succ (instant n : Nat) :
    x.run pause instant (n + 1) s =
      (x.next? pause instant (x.run pause instant n s)).getD (x.run pause instant n s) := by
  induction n generalizing s with
  | zero =>
      unfold run
      cases x.next? pause instant s <;> rfl
  | succ n ih =>
      cases hnext : x.next? pause instant s with
      | none => rw [run_of_next?_eq_none hnext, run_of_next?_eq_none hnext, hnext, Option.getD_none]
      | some after =>
          have hlater : ∀ m, x.run pause instant (m + 1) s = x.run pause instant m after :=
            fun m => by rw [run, hnext]
          rw [hlater, hlater, ih]

/-- **Run.**  The world goes on as the poller does. -/
theorem iterate_world (instant n : Nat) :
    World.iterate (World.tickToStop b id instant) n (x.world r id pause s) =
      x.world r id pause (x.run pause instant n s) := by
  induction n generalizing s with
  | zero => rfl
  | succ n ih =>
      unfold World.iterate run
      rw [tickToStop_world]
      cases x.next? pause instant s with
      | none => rfl
      | some after => exact ih

/-- Nothing happens any more once the poller has stopped. -/
theorem iterate_tick_of_exited (exited : s.stage = .exited) (n : Nat) :
    World.iterate (World.tick b) n (x.world r id pause s) = x.world r id pause s := by
  have hdue : (x.world r id pause s).nextDue? = none := by simp [World.nextDue?, world, exited]
  have htick : (x.world r id pause s).tick b = none := by
    unfold World.tick
    rw [act_world, if_pos exited, hdue]
    rfl
  cases n with
  | zero => rfl
  | succ n => rw [World.iterate, htick]

end Inquiry

end SnapshotEngine
