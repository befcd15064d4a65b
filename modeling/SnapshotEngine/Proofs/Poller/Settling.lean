import SnapshotEngine.Proofs.Poller.Watch

/-!
# How a poller that is settled comes out

A poller that is settled hears the first terminal answer, if that comes before the
grace is over; otherwise it hears all answers that come before, and is cancelled.

* `Sound` — what is true of a poller at any time before it is cancelled;
* `Sound.move`, `rank_lt` — a move keeps what is true, and only so many are left;
* `Sound.run`, `Sound.next?_run` — what is true at the end of a run, if it is long
  enough;
* `settles_as_answered` — how it comes out, when, and what stands in the registry.
-/

namespace SnapshotEngine

variable {σ : Type}

namespace Inquiry

variable {b : Backend σ} {job : JobHandle} {x : Inquiry b job} {r : Registry} {id : Nat}
  {pause : Duration} {s s' : Watch}

/-! ## What is true at any time -/

variable {grace : Nat}

/-- What is true of a poller that was not cancelled, before the grace is over. -/
inductive Sound (x : Inquiry b job) (pause : Duration) (grace : Nat) (s : Watch) : Prop where
  | asking (stage : s.stage = .asking)
      (before : ∀ k < s.asked, x.AnswersBefore pause.nanos grace k ∧ x.isTerminal k = false)
      (due : s.due = x.answeredAt pause.nanos s.asked) (next : s.now ≤ s.due)
  | resting (stage : s.stage = .resting)
      (before : ∀ k < s.asked, x.AnswersBefore pause.nanos grace k ∧ x.isTerminal k = false)
      (due : s.due + x.latency.getD 0 = x.answeredAt pause.nanos s.asked) (next : s.now ≤ s.due)
  | exited {n : Nat} (stage : s.stage = .exited) (asked : s.asked = n + 1)
      (before : ∀ k < n, x.AnswersBefore pause.nanos grace k ∧ x.isTerminal k = false)
      (last : x.AnswersBefore pause.nanos grace n) (terminal : x.isTerminal n)
      (heard : s.now = x.answeredAt pause.nanos n)

/-- A poller that starts has everything before it. -/
theorem sound_start : x.Sound pause grace x.start :=
  .asking rfl (fun k hk => absurd hk (Nat.not_lt_zero k)) (answeredAt_zero _).symm (Nat.zero_le _)

/-- How a poller that was not cancelled gets on. -/
inductive Move (x : Inquiry b job) (pause : Duration) (grace : Nat) (s : Watch) : Watch → Prop where
  /-- It hears an answer. -/
  | hears (stage : s.stage = .asking) (early : s.now < grace) (due : s.due ≤ s.now)
      (answers : x.latency.isSome) :
      Move x pause grace s
        { s with
          due := s.now + pause.nanos
          stage := if x.isTerminal s.asked then .exited else .resting
          asked := s.asked + 1 }
  /-- It has rested, and asks again. -/
  | asks (stage : s.stage = .resting) (due : s.due ≤ s.now) :
      Move x pause grace s { s with due := s.now + x.latency.getD 0, stage := .asking }
  /-- The clock moves to when it is to be woken. -/
  | waits (stage : s.stage ≠ .exited) (next : s.now < s.due) (early : s.due < grace) :
      Move x pause grace s { s with now := s.due }

theorem Move.cancelled (hmove : x.Move pause grace s s') : s'.cancelled = s.cancelled := by
  cases hmove <;> rfl

theorem move_of_next? (live : s.cancelled = false) (h : x.next? pause grace s = some s') :
    x.Move pause grace s s' := by
  unfold next? at h
  split at h
  · cases h
  rename_i hgoes
  obtain ⟨hstage, hearly⟩ := not_or.mp hgoes
  split at h
  · rename_i after hwake
    cases h
    unfold wake? at hwake
    rw [if_neg (by simp [live])] at hwake
    split at hwake
    · cases hwake
    rename_i hdue
    split at hwake
    · rename_i hasking
      obtain ⟨q, hq, rfl⟩ := Option.map_eq_some_iff.mp hwake
      exact .hears hasking (Nat.not_le.mp hearly) (Nat.not_lt.mp hdue) (by simp [hq])
    · rename_i hresting
      cases hwake
      exact .asks hresting (Nat.not_lt.mp hdue)
    · cases hwake
  · split at h
    · rename_i hwaits
      cases h
      exact .waits hstage hwaits.1 hwaits.2
    · cases h

/-- **One move.**  What is true stays true. -/
theorem Sound.move (h : x.Sound pause grace s) (hmove : x.Move pause grace s s') :
    x.Sound pause grace s' := by
  cases hmove with
  | hears stage early due answers =>
      cases h with
      | resting hstage => rw [stage] at hstage; cases hstage
      | exited hstage => rw [stage] at hstage; cases hstage
      | asking _ before hdue next =>
          have hnow : s.now = x.answeredAt pause.nanos s.asked := by omega
          have hlast : x.AnswersBefore pause.nanos grace s.asked := ⟨answers, hnow ▸ early⟩
          cases hterminal : x.isTerminal s.asked with
          | true => exact .exited rfl rfl before hlast hterminal hnow
          | false =>
              refine .resting rfl (fun k hk => ?_) ?_ (Nat.le_add_right ..)
              · rcases Nat.lt_succ_iff_lt_or_eq.mp hk with hlt | rfl
                · exact before k hlt
                · exact ⟨hlast, hterminal⟩
              · rw [answeredAt_succ]
                exact congrArg (· + pause.nanos + x.latency.getD 0) hnow
  | asks stage due =>
      cases h with
      | asking hstage => rw [stage] at hstage; cases hstage
      | exited hstage => rw [stage] at hstage; cases hstage
      | resting _ before hdue next =>
          have hnow : s.now + x.latency.getD 0 = x.answeredAt pause.nanos s.asked := by omega
          exact .asking rfl before hnow (Nat.le_add_right ..)
  | waits stage next early =>
      cases h with
      | asking hstage before hdue _ => exact .asking hstage before hdue (Nat.le_refl _)
      | resting hstage before hdue _ => exact .resting hstage before hdue (Nat.le_refl _)
      | exited hstage => exact absurd hstage stage

/-- How much is still to happen at most. -/
def rank (grace : Nat) (s : Watch) : Nat :=
  (grace - s.now) + 3 * (grace - s.asked) +
    match s.stage with
    | .asking => 1
    | .resting => 2
    | .exited => 0

/-- Every move leaves less to happen. -/
theorem rank_lt (takesTime : ∀ q ∈ x.latency, 0 < pause.nanos + q) (h : x.Sound pause grace s)
    (hmove : x.Move pause grace s s') : rank grace s' < rank grace s := by
  cases hmove with
  | asks stage due => simp [rank, stage]
  | waits stage next early =>
      simp only [rank]
      omega
  | hears stage early due answers =>
      obtain ⟨q, hq⟩ := Option.isSome_iff_exists.mp answers
      have hpos : 0 < pause.nanos + x.latency.getD 0 := by
        rw [hq]
        exact takesTime q hq
      have hasked : s.asked < grace := by
        cases h with
        | resting hstage => rw [stage] at hstage; cases hstage
        | exited hstage => rw [stage] at hstage; cases hstage
        | asking _ before hdue next =>
            have hle := le_answeredAt hpos s.asked
            omega
      simp only [rank, stage]
      split <;> omega

/-- **Run.**  What is true at the start is true after any run. -/
theorem Sound.run (h : x.Sound pause grace s) (live : s.cancelled = false) (n : Nat) :
    x.Sound pause grace (x.run pause grace n s) ∧ (x.run pause grace n s).cancelled = false := by
  induction n generalizing s with
  | zero => exact ⟨h, live⟩
  | succ n ih =>
      unfold Inquiry.run
      cases hnext : x.next? pause grace s with
      | none => exact ⟨h, live⟩
      | some after =>
          have hmove := move_of_next? live hnext
          exact ih (h.move hmove) (hmove.cancelled.trans live)

/-- A run that is long enough comes to where nothing more happens. -/
theorem Sound.next?_run (takesTime : ∀ q ∈ x.latency, 0 < pause.nanos + q)
    (h : x.Sound pause grace s) (live : s.cancelled = false) {n : Nat} (hn : rank grace s < n) :
    x.next? pause grace (x.run pause grace n s) = none := by
  induction n generalizing s with
  | zero => omega
  | succ n ih =>
      unfold Inquiry.run
      cases hnext : x.next? pause grace s with
      | none => exact hnext
      | some after =>
          have hmove := move_of_next? live hnext
          have hless := rank_lt takesTime h hmove
          exact ih (h.move hmove) (hmove.cancelled.trans live) (by omega)

/-! ## How it comes out -/

/-- A poller that waits for something that comes before the grace is over goes on. -/
theorem next?_ne_none (live : s.cancelled = false) (hstage : s.stage ≠ .exited)
    (next : s.now ≤ s.due) (early : s.due < grace) (answers : x.latency.isSome) :
    x.next? pause grace s ≠ none := by
  have hearly : ¬ grace ≤ s.now := by omega
  obtain ⟨q, hq⟩ := Option.isSome_iff_exists.mp answers
  by_cases hdue : s.now < s.due
  · simp [next?, wake?, live, hstage, hearly, hdue, early]
  · cases hs : s.stage with
    | exited => exact absurd hs hstage
    | asking => simp [next?, wake?, live, hs, hearly, hdue, hq]
    | resting => simp [next?, wake?, live, hs, hearly, hdue]

/-- Where nothing more happens to a poller that has not stopped, it has heard what
comes before the grace is over, and no more. -/
theorem Sound.heard_of_open (h : x.Sound pause grace s) (live : s.cancelled = false)
    (hstage : s.stage ≠ .exited) (hnone : x.next? pause grace s = none) :
    (∀ k, k < s.asked ↔ x.AnswersBefore pause.nanos grace k) ∧
      ∀ k < s.asked, x.isTerminal k = false := by
  have hopen : (∀ k < s.asked, x.AnswersBefore pause.nanos grace k ∧ x.isTerminal k = false) ∧
      s.due ≤ x.answeredAt pause.nanos s.asked ∧ s.now ≤ s.due := by
    cases h with
    | asking _ before due next => exact ⟨before, due.le, next⟩
    | resting _ before due next => exact ⟨before, by omega, next⟩
    | exited hexited => exact absurd hexited hstage
  obtain ⟨hbefore, hdue, hnext⟩ := hopen
  refine ⟨fun k => ⟨fun hk => (hbefore k hk).1, fun ⟨hanswers, hearly⟩ => ?_⟩,
    fun k hk => (hbefore k hk).2⟩
  by_contra hlater
  have hmono : x.answeredAt pause.nanos s.asked ≤ x.answeredAt pause.nanos k :=
    monotone_answeredAt _ (Nat.not_lt.mp hlater)
  exact next?_ne_none live hstage hnext (by omega) hanswers hnone

/-- A poller that has stopped has heard the first terminal answer. -/
theorem Sound.heard_of_exited (h : x.Sound pause grace s) (hstage : s.stage = .exited) :
    ∃ n, s.asked = n + 1 ∧ x.isTerminal n ∧ (∀ k < n, x.isTerminal k = false) ∧
      x.AnswersBefore pause.nanos grace n ∧ s.now = x.answeredAt pause.nanos n := by
  cases h with
  | asking hasking => rw [hstage] at hasking; cases hasking
  | resting hresting => rw [hstage] at hresting; cases hresting
  | exited _ asked before last terminal heard =>
      exact ⟨_, asked, terminal, fun k hk => (before k hk).2, last, heard⟩

/-- Where a poller stands that was settled: unless it had stopped, it was cancelled when
the grace was over. -/
def settled (grace : Nat) (s : Watch) : Watch :=
  if s.stage = .exited then s
  else { s with now := grace, stage := .exited, cancelled := true }

@[simp] theorem asked_settled : (settled grace s).asked = s.asked := by
  unfold settled
  split <;> rfl

@[simp] theorem stage_settled : (settled grace s).stage = .exited := by
  unfold settled
  split
  · assumption
  · rfl

/-- A poller is settled: it gets on until the grace is over, and stops. -/
theorem settlePoller_world {fuel : Nat} (hfuel : 0 < fuel) :
    (x.world r id pause x.start).settlePoller b fuel id grace =
      (x.heard (x.run pause grace fuel x.start).asked,
        x.world r id pause (settled grace (x.run pause grace fuel x.start))) := by
  have hlast : ∀ s : Watch, ((x.world r id pause s).engine.pollers.get? id).bind (·.last) =
      x.heard s.asked := fun s => by
    simp only [world, engine, Engine.get?_pollers_lone, Option.bind_some, poller]
  have hdeadline : (x.world r id pause x.start).now + grace = grace := Nat.zero_add grace
  unfold World.settlePoller
  simp only [hdeadline, iterate_world, hasStopped_world, decide_eq_true_eq]
  generalize x.run pause grace fuel x.start = e
  by_cases hstage : e.stage = .exited
  · rw [if_pos hstage, hlast, settled, if_pos hstage]
  -- It is cancelled, and the one thing that happens then is that it stops.
  have hcancelled : ({ x.world r id pause e with
      now := grace
      engine := (x.world r id pause e).engine.cancelPoller id } : World σ) =
      x.world r id pause { e with now := grace, cancelled := true } := by
    simp [world, engine, Engine.cancelPoller_lone, poller, Poller.cancel]
  have hstops : x.run pause (grace + 1) fuel { e with now := grace, cancelled := true } =
      settled grace e := by
    obtain ⟨n, rfl⟩ := Nat.exists_eq_succ_of_ne_zero hfuel.ne'
    have hnext : x.next? pause (grace + 1) { e with now := grace, cancelled := true } =
        some (settled grace e) := by
      simp [next?, wake?, hstage, settled]
    rw [Inquiry.run, hnext]
    exact run_of_next?_eq_none (by simp [next?]) n
  rw [if_neg hstage, hcancelled, iterate_world, hstops, hlast, asked_settled]

/-! ## What happens on the way -/

/-- From one moment to the next a question is answered in its turn and at its time.  A
status is noted, and stops the poller if it is terminal; an error does neither. -/
structure Serves (x : Inquiry b job) (id pause : Nat) (w after : World σ) : Prop where
  answers : x.latency.isSome
  count : x.queries after.site = x.queries w.site + 1
  time : after.now = x.answeredAt pause (x.queries w.site)
  noted : after.engine.registry =
    match x.answers (x.queries w.site) with
    | .ok status => w.engine.registry.record job status
    | .error _ => w.engine.registry
  stopped : after.hasStopped id = x.isTerminal (x.queries w.site)

/-- From one moment to the next nothing is heard. -/
structure Quiet (x : Inquiry b job) (id : Nat) (w after : World σ) : Prop where
  count : x.queries after.site = x.queries w.site
  registry : after.engine.registry = w.engine.registry
  stopped : after.hasStopped id = w.hasStopped id

/-- What a move looks like from outside. -/
theorem Sound.serves_or_quiet (h : x.Sound pause grace s) (hmove : x.Move pause grace s s') :
    x.Serves id pause.nanos (x.world r id pause s) (x.world r id pause s') ∨
      x.Quiet id (x.world r id pause s) (x.world r id pause s') := by
  cases hmove with
  | hears stage early due answers =>
      left
      have hcount : ∀ k, x.queries (x.site k) = k := x.queries_site
      refine ⟨answers, ?_, ?_, ?_, ?_⟩
      · simp only [world, hcount]
      · cases h with
        | resting hstage => rw [stage] at hstage; cases hstage
        | exited hstage => rw [stage] at hstage; cases hstage
        | asking _ before hdue next =>
            simp only [world, hcount]
            omega
      · simp only [world, engine, Engine.lone, hcount, heard_succ]
        cases x.answers s.asked with
        | error cause => rfl
        | ok status => exact (Registry.recordLast_record r job (x.heard s.asked) status).symm
      · rw [hasStopped_world]
        cases hterminal : x.isTerminal s.asked <;> simp [world, hcount, hterminal]
  | asks stage due =>
      exact .inr ⟨rfl, rfl, by simp [hasStopped_world, stage]⟩
  | waits stage next early =>
      exact .inr ⟨rfl, rfl, by simp [hasStopped_world]⟩

/-- **Step.**  At each moment a question is answered or nothing is heard. -/
theorem serves_or_quiet_run (n : Nat) :
    x.Serves id pause.nanos (x.world r id pause (x.run pause grace n x.start))
        (x.world r id pause (x.run pause grace (n + 1) x.start)) ∨
      x.Quiet id (x.world r id pause (x.run pause grace n x.start))
        (x.world r id pause (x.run pause grace (n + 1) x.start)) := by
  have hstart : x.Sound pause grace x.start := sound_start
  obtain ⟨hsound, hlive⟩ := hstart.run rfl n
  rw [run_succ]
  cases hnext : x.next? pause grace (x.run pause grace n x.start) with
  | none => exact .inr ⟨rfl, rfl, rfl⟩
  | some after => exact hsound.serves_or_quiet (move_of_next? hlive hnext)

/-- The first terminal answer, if it comes before the grace is over, is the end. -/
theorem Sound.eq_of_first (h : x.Sound pause grace s) (live : s.cancelled = false)
    (hnone : x.next? pause grace s = none) {n : Nat} {status : JobStatus}
    (hanswer : x.answers n = .ok status) (hterminal : status.isTerminal)
    (first : ∀ k < n, x.isTerminal k = false) (early : x.AnswersBefore pause.nanos grace n) :
    x.heard s.asked = some status ∧ (settled grace s).now = x.answeredAt pause.nanos n ∧
      s.asked = n + 1 := by
  have hn : x.isTerminal n := isTerminal_iff.mpr ⟨status, hanswer, hterminal⟩
  by_cases hstage : s.stage = .exited
  · obtain ⟨m, hasked, hm, hfirst, _, hnow⟩ := h.heard_of_exited hstage
    obtain rfl : m = n := by
      rcases Nat.lt_trichotomy m n with hlt | heq | hlt
      · rw [first m hlt] at hm
        cases hm
      · exact heq
      · rw [hfirst n hlt] at hn
        cases hn
    refine ⟨?_, ?_, hasked⟩
    · rw [hasked, heard_succ, hanswer]
    · rw [settled, if_pos hstage, hnow]
  · obtain ⟨hheard, hopen⟩ := h.heard_of_open live hstage hnone
    rw [hopen n ((hheard n).mpr early)] at hn
    cases hn

/-- Without a terminal answer before the grace is over, it is the end. -/
theorem Sound.eq_of_none (h : x.Sound pause grace s) (live : s.cancelled = false)
    (hnone : x.next? pause grace s = none)
    (later : ∀ n, x.isTerminal n → ¬ x.AnswersBefore pause.nanos grace n) :
    (settled grace s).now = grace ∧ ∀ k, k < s.asked ↔ x.AnswersBefore pause.nanos grace k := by
  by_cases hstage : s.stage = .exited
  · obtain ⟨n, _, hn, _, hearly, _⟩ := h.heard_of_exited hstage
    exact absurd hearly (later n hn)
  · obtain ⟨hheard, _⟩ := h.heard_of_open live hstage hnone
    rw [settled, if_neg hstage]
    exact ⟨rfl, hheard⟩

/-- **How a poller that is settled comes out.**  Collaborators answer the questions after
a job one by one, or never; not everything happens at once.  A poller for the job is
started and settled.  All questions that are answered are answered in turn and at their
times, before the grace is over, and a failed one changes nothing.  The first terminal
status that comes before the grace is over is what comes of it, at that time; otherwise
it is the last status that comes before the grace is over, if any, and all that comes
before is heard.  It then stands in the record of the volume of the job, if that is
known, and nothing else has changed; nor does anything happen any more. -/
theorem settles_as_answered (x : Inquiry b job) (r : Registry) (id : Nat) (pause grace : Duration)
    (takesTime : ∀ q ∈ x.latency, 0 < pause.nanos + q) :
    let start := World.ofPoller b r (x.site 0) id job pause
    let before := fun n => World.iterate (World.tickToStop b id grace.nanos) n start
    ∃ enough, ∀ fuel, enough ≤ fuel →
      let settled := start.settlePoller b fuel id grace.nanos
      let last := settled.1
      let after := settled.2
      let asked := x.queries after.site
      (x.queries (before 0).site = 0 ∧ x.queries (before fuel).site = asked ∧
        ∀ n, x.Serves id pause.nanos (before n) (before (n + 1)) ∨
          x.Quiet id (before n) (before (n + 1))) ∧
      (∀ n status, x.answers n = .ok status → status.isTerminal →
        (∀ k < n, x.isTerminal k = false) → x.AnswersBefore pause.nanos grace.nanos n →
          last = some status ∧ after.now = x.answeredAt pause.nanos n ∧ asked = n + 1) ∧
      ((∀ n, x.isTerminal n → ¬ x.AnswersBefore pause.nanos grace.nanos n) →
        last = x.heard asked ∧ after.now = grace.nanos ∧
          ∀ k, k < asked ↔ x.AnswersBefore pause.nanos grace.nanos k) ∧
      (∀ name, after.engine.registry.volume? name =
        if job.volumeId = name then
          (r.volume? name).map fun v => last.elim v (v.withStatus job.kind)
        else r.volume? name) ∧
      (after.engine.registry.snapshots = r.snapshots ∧ after.engine.registry.held = r.held) ∧
      ∀ n, World.iterate (World.tick b) n after = after := by
  intro start before
  have hstart : start = x.world r id pause x.start := ofPoller_eq
  have hbefore : ∀ n, before n = x.world r id pause (x.run pause grace.nanos n x.start) := by
    intro n
    rw [← iterate_world, ← hstart]
  refine ⟨rank grace.nanos x.start + 1, fun fuel hfuel => ?_⟩
  have hopen : x.Sound pause grace.nanos x.start := sound_start
  obtain ⟨hsound, hlive⟩ := hopen.run rfl fuel
  have hnone : x.next? pause grace.nanos (x.run pause grace.nanos fuel x.start) = none :=
    hopen.next?_run takesTime rfl (by omega)
  have hend := hbefore fuel
  have hpositive : 0 < fuel := by omega
  have hsettled : (x.world r id pause x.start).settlePoller b fuel id grace.nanos = _ :=
    settlePoller_world hpositive
  generalize x.run pause grace.nanos fuel x.start = e at hsound hlive hnone hsettled hend
  have hasked : x.queries (x.world r id pause (settled grace.nanos e)).site = e.asked :=
    (x.queries_site _).trans asked_settled
  have hregistry : (x.world r id pause (settled grace.nanos e)).engine.registry =
      r.recordLast job (x.heard e.asked) :=
    congrArg (fun k => r.recordLast job (x.heard k)) asked_settled
  rw [hstart, hsettled]
  dsimp only
  rw [hasked, hregistry]
  refine ⟨⟨?_, ?_, fun n => ?_⟩, ?_, ?_, ?_, ?_, fun n => ?_⟩
  · rw [hbefore]
    exact x.queries_site 0
  · rw [hend]
    exact x.queries_site e.asked
  · rw [hbefore, hbefore]
    exact serves_or_quiet_run n
  · intro n status hanswer hterminal hfirst hearly
    exact hsound.eq_of_first hlive hnone hanswer hterminal hfirst hearly
  · intro hlater
    exact ⟨rfl, hsound.eq_of_none hlive hnone hlater⟩
  · exact Registry.volume?_recordLast r job _
  · exact Registry.snapshots_held_recordLast r job _
  · exact iterate_tick_of_exited stage_settled n

/-- A backup of a volume. -/
def dailyJob : JobHandle := ⟨.backup, "daily-01", "pvc-1", "apps"⟩

/-- A registry that knows the volume. -/
def dailyRegistry : Registry := Registry.empty.insert (.fresh "pvc-1" "apps" "cstor")

/-- A control plane that is out of reach once, then says that a job is in progress, and
then that it is done; each question takes a second. -/
def dailyCast : Cast :=
  { Cast.ofDirectory (.ofClaims .empty) with
    plane :=
      { ScriptedPlane.empty with
        failures := [.unreachable "connection reset"]
        statuses := [.inProgress, .done] }
    queryDelay := ⟨1000000000⟩ }

/-- With five seconds between two questions the third answer comes after thirteen. -/
theorem settles_as_answered_daily :
    let x := ofCast dailyCast rfl dailyJob
    let pause : Duration := ⟨5000000000⟩
    let start := World.ofPoller Cast.backend dailyRegistry (x.site 0) 0 dailyJob pause
    (∀ q ∈ x.latency, 0 < pause.nanos + q) ∧
      ∃ enough, ∀ fuel, enough ≤ fuel →
        let settled := start.settlePoller Cast.backend fuel 0 30000000000
        settled.1 = some .done ∧ settled.2.now = 13000000000 ∧ x.queries settled.2.site = 3 ∧
          settled.2.engine.registry.volume? "pvc-1" =
            some { Volume.fresh "pvc-1" "apps" "cstor" with backupStatus := .done } := by
  intro x pause start
  have htakes : ∀ q ∈ x.latency, 0 < pause.nanos + q := by
    intro q _
    exact Nat.lt_of_lt_of_le (by decide) (Nat.le_add_right _ q)
  have hthird : x.answeredAt pause.nanos 2 = 13000000000 := by decide
  have hearly : x.AnswersBefore pause.nanos 30000000000 2 := by
    refine ⟨rfl, ?_⟩
    rw [hthird]
    decide
  obtain ⟨enough, hsettles⟩ := settles_as_answered x dailyRegistry 0 pause ⟨30000000000⟩ htakes
  refine ⟨htakes, enough, fun fuel hfuel => ?_⟩
  obtain ⟨_, hterminal, _, hvolumes, _⟩ := hsettles fuel hfuel
  obtain ⟨hlast, hnow, hasked⟩ := hterminal 2 .done rfl rfl (by decide) hearly
  refine ⟨hlast, hnow.trans hthird, hasked, ?_⟩
  rw [hvolumes, hlast]
  rfl

end Inquiry

end SnapshotEngine
