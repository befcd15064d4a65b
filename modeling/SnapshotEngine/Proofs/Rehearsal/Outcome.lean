import SnapshotEngine.Proofs.Engine.Confirmation
import SnapshotEngine.Proofs.Rehearsal.Motion

/-!
# How and when an operation is over

An operation whose job was accepted is over in the end, and the timetable of its
collaborators says how and when.

* `Sound` — what is true of a standing at any time;
* `Sound.progress` — it is either left or the end;
* `Sound.move`, `rank_lt` — a move keeps what is true, and only so many are left;
* `Sound.closes` — the end is the one that the timetable has;
* `ends_as_timetabled` — so the operation is over as the timetable says.
-/

namespace SnapshotEngine

/-- No answer comes just as the data has moved, as the grace is over or as the time
limit is reached.  Only if all happens at once, the first answer may. -/
def Timetable.Untied (t : Timetable) (pause grace limit : Nat) : Prop :=
  t.succeeds → ∀ moved, t.transferTime = some moved → ∀ k,
    t.answeredAt pause k = moved ∨ t.answeredAt pause k = moved + grace ∨
        t.answeredAt pause k = limit →
      t.answeredAt pause k = 0 ∧ moved = 0 ∧ 0 < grace ∧ 0 < limit

namespace Prospect

variable (x : Prospect)

/-- All answers before some number have come, and none of them was terminal. -/
def Open (now asked : Nat) : Prop :=
  ∀ j < asked, x.timetable.isTerminal j = false ∧ x.timetable.answeredAt x.pause j ≤ now

/-- How far a poller can be that was not cancelled. -/
inductive Polls (now : Nat) : PollerStage → Nat → Prop where
  | asking {k : Nat} (before : x.Open now k) (due : now ≤ x.timetable.answeredAt x.pause k) :
      Polls now .asking k
  | resting {k : Nat} (before : x.Open now k)
      (due : now + x.timetable.queryDelay ≤ x.timetable.answeredAt x.pause k) :
      Polls now .resting k
  | exited {k : Nat} (before : x.Open now k) (terminal : x.timetable.isTerminal k)
      (heard : x.timetable.answeredAt x.pause k ≤ now) : Polls now .exited (k + 1)

/-- What is true of a standing at any time. -/
inductive Sound : Standing → Prop where
  | moving {s : Standing} (stage : s.stage = .transferring)
      (polls : x.Polls s.now s.poller s.asked) (inTime : s.now ≤ x.limit)
      (before : x.timetable.transferTime = some x.moved → s.now ≤ x.moved)
      (arrived : s.arrived = true → x.timetable.transferTime = some x.moved → s.now = x.moved) :
      Sound s
  | settling {s : Standing} (stage : s.stage = .settling)
      (polls : x.Polls s.now s.poller s.asked) (inTime : s.now ≤ x.limit)
      (done : x.timetable.transferTime = some x.moved) (succeeds : x.timetable.succeeds)
      (since : x.moved ≤ s.now) (graced : s.now ≤ x.moved + x.grace)
      (prompt : ∀ k, s.poller = .exited → s.asked = k + 1 →
        s.now = max x.moved (x.timetable.answeredAt x.pause k)) : Sound s
  | joining {s : Standing} (stage : s.stage = .joining) (inTime : s.now ≤ x.limit)
      (done : x.timetable.transferTime = some x.moved) (succeeds : x.timetable.succeeds)
      (due : s.now = x.moved + x.grace) (prompt : s.poller = .exited → s.now < x.limit)
      (before : x.Open s.now s.asked) (next : s.now < x.timetable.answeredAt x.pause s.asked) :
      Sound s

/-- How much is still to happen at most. -/
def rank (s : Standing) : Nat :=
  (x.limit - s.now) + 3 * (x.limit + 2 - s.asked) +
    (match s.poller with
      | .asking => 1
      | .resting => 2
      | .exited => 0) +
    match s.stage with
    | .transferring => if s.arrived then 3 else 4
    | .settling => 2
    | .joining => 1

variable {x : Prospect} {s : Standing}

theorem pause_pos (x : Prospect) : 0 < x.pause + x.timetable.queryDelay := x.takesTime

/-- A transfer that comes to an end does so when it is due. -/
theorem transferTime_eq {moved : Nat} (h : x.timetable.transferTime = some moved) :
    x.timetable.transferTime = some x.moved := by
  simp [Prospect.moved, h]

/-! ## Something happens -/

/-- The limit is still to come, so the clock has somewhere to go. -/
theorem exists_next (early : s.now < x.limit) :
    ∃ due, ((x.instants s).filter (s.now < ·)).min? = some due := by
  have hlimit : x.limit ∈ (x.instants s).filter (s.now < ·) := by
    simp [instants, Schedule.instants, schedule, early]
  cases hmin : ((x.instants s).filter (s.now < ·)).min? with
  | some due => exact ⟨due, rfl⟩
  | none =>
      rw [List.min?_eq_none_iff] at hmin
      rw [hmin] at hlimit
      cases hlimit

/-- While the operation waits the poller does something, or the clock moves, or the
time is over. -/
theorem Idle.progress (idle : x.Idle s) (stage : s.stage ≠ .joining)
    (polls : x.Polls s.now s.poller s.asked) :
    (∃ s', x.Move s s') ∨ ∃ resolution, x.Closes s resolution := by
  by_cases late : x.limit ≤ s.now
  · exact .inr ⟨_, .timedOut idle late⟩
  have early : s.now < x.limit := Nat.not_le.mp late
  obtain ⟨due, hdue⟩ := exists_next early
  left
  generalize hpoller : s.poller = poller at polls
  generalize hasked : s.asked = asked at polls
  cases polls with
  | asking before due =>
      by_cases hnow : s.now = x.timetable.answeredAt x.pause s.asked
      · exact ⟨_, .hears idle early stage hpoller hnow⟩
      · refine ⟨_, .waits idle early stage (fun t ht => ?_) hdue⟩
        simp [wake?, hpoller] at ht
        subst hasked
        omega
  | resting before due =>
      by_cases hnow : s.now + x.timetable.queryDelay = x.timetable.answeredAt x.pause s.asked
      · exact ⟨_, .asks idle early stage hpoller hnow⟩
      · refine ⟨_, .waits idle early stage (fun t ht => ?_) hdue⟩
        simp [wake?, hpoller] at ht
        subst hasked
        omega
  | exited before terminal heard =>
      refine ⟨_, .waits idle early stage (fun t ht => ?_) hdue⟩
      simp [wake?, hpoller] at ht

/-- **Progress.**  An operation that is not over goes on or comes to its end. -/
theorem Sound.progress (h : x.Sound s) :
    (∃ s', x.Move s s') ∨ ∃ resolution, x.Closes s resolution := by
  cases h with
  | moving stage polls inTime before arrived =>
      cases harrived : s.arrived with
      | true =>
          cases hdone : x.timetable.transferTime with
          | none =>
              refine Idle.progress ⟨fun _ _ => hdone, ?_, ?_, ?_⟩ (by simp [stage]) polls
              · simp [harrived]
              · simp [stage]
              · simp [stage]
          | some moved =>
              have hmoved := transferTime_eq hdone
              cases hsucceeds : x.timetable.succeeds with
              | true =>
                  rw [← arrived harrived hmoved] at hmoved
                  exact .inl ⟨_, .moved stage harrived hmoved hsucceeds⟩
              | false => exact .inr ⟨_, .failed stage harrived hdone hsucceeds⟩
      | false =>
          by_cases hdue : x.moved ≤ s.now
          · exact .inl ⟨_, .arrives stage harrived hdue⟩
          · refine Idle.progress ⟨?_, fun _ _ => Nat.not_le.mp hdue, ?_, ?_⟩ (by simp [stage]) polls
            · simp [harrived]
            · simp [stage]
            · simp [stage]
  | settling stage polls inTime done succeeds since graced prompt =>
      by_cases hexited : s.poller = .exited
      · exact .inr ⟨_, .settled (by simp [stage]) hexited⟩
      by_cases hdue : s.now = x.moved + x.grace
      · exact .inl ⟨_, .graceOver stage hexited hdue⟩
      · refine Idle.progress ⟨?_, ?_, fun _ => hexited, fun _ => ?_⟩ (by simp [stage]) polls
        · simp [stage]
        · simp [stage]
        · omega
  | joining stage inTime done succeeds due prompt before next =>
      by_cases hexited : s.poller = .exited
      · exact .inr ⟨_, .settled (by simp [stage]) hexited⟩
      have idle : x.Idle s := by
        refine ⟨?_, ?_, fun _ => hexited, ?_⟩ <;> simp [stage]
      by_cases late : x.limit ≤ s.now
      · exact .inr ⟨_, .timedOut idle late⟩
      · exact .inl ⟨_, .stops idle (Nat.not_le.mp late) stage⟩

/-! ## What stays true -/

theorem Open.mono {now later k : Nat} (h : x.Open now k) (hle : now ≤ later) : x.Open later k :=
  fun j hj => ⟨(h j hj).1, (h j hj).2.trans hle⟩

/-- The clock moves to the next instant at which something is due. -/
theorem next_le {due : Nat} (h : ((x.instants s).filter (s.now < ·)).min? = some due) :
    s.now < due ∧ ∀ t ∈ x.instants s, s.now < t → due ≤ t := by
  obtain ⟨hmem, hleast⟩ := List.min?_eq_some_iff.mp h
  refine ⟨by simpa using (List.mem_filter.mp hmem).2, fun t ht hlt => ?_⟩
  exact hleast t (List.mem_filter.mpr ⟨ht, by simpa using hlt⟩)

namespace Polls

variable {now asked : Nat} {poller : PollerStage}

/-- What is still to be heard is still to come. -/
theorem open_of_ne (h : x.Polls now poller asked) (hne : poller ≠ .exited) :
    x.Open now asked ∧ now ≤ x.timetable.answeredAt x.pause asked := by
  cases h with
  | asking before due => exact ⟨before, due⟩
  | resting before due => exact ⟨before, by omega⟩
  | exited before terminal heard => exact absurd rfl hne

/-- A poller that has stopped has heard the end. -/
theorem heard_of_eq (h : x.Polls now poller asked) (heq : poller = .exited) :
    ∃ k, asked = k + 1 ∧ x.Open now k ∧ x.timetable.isTerminal k ∧
      x.timetable.answeredAt x.pause k ≤ now := by
  cases h with
  | asking before due => cases heq
  | resting before due => cases heq
  | exited before terminal heard => exact ⟨_, rfl, before, terminal, heard⟩

/-- The clock takes a poller no further than to when it is to be woken. -/
theorem waits {due : Nat} (h : x.Polls s.now s.poller s.asked) (hle : s.now ≤ due)
    (hwake : ∀ t ∈ x.wake? s, due ≤ t) : x.Polls due s.poller s.asked := by
  obtain ⟨now, stage, arrived, poller, asked⟩ := s
  cases h with
  | asking before _ => exact .asking (before.mono hle) (hwake _ rfl)
  | resting before hdue =>
      have hnow : now + x.timetable.queryDelay ≤ x.timetable.answeredAt x.pause asked := hdue
      have hlater : due ≤ x.timetable.answeredAt x.pause asked - x.timetable.queryDelay :=
        hwake _ rfl
      have hnext : due + x.timetable.queryDelay ≤ x.timetable.answeredAt x.pause asked := by omega
      exact .resting (before.mono hle) hnext
  | exited before terminal heard => exact .exited (before.mono hle) terminal (heard.trans hle)

/-- A poller that hears its answer stops if the answer is terminal. -/
theorem hears (h : x.Open now asked) (due : now = x.timetable.answeredAt x.pause asked) :
    x.Polls now (if x.timetable.isTerminal asked then .exited else .resting) (asked + 1) := by
  cases hterminal : x.timetable.isTerminal asked with
  | true => exact .exited h hterminal due.ge
  | false =>
      refine .resting (fun j hj => ?_) ?_
      · rcases Nat.lt_succ_iff_lt_or_eq.mp hj with hlt | rfl
        · exact h j hlt
        · exact ⟨hterminal, due.ge⟩
      · rw [Timetable.answeredAt_succ]
        omega

end Polls

/-- Few questions are asked before the limit. -/
theorem asked_lt (early : s.now < x.limit) (due : s.now = x.timetable.answeredAt x.pause s.asked) :
    s.asked < x.limit := by
  have hle : s.asked ≤ x.timetable.answeredAt x.pause s.asked :=
    Timetable.le_answeredAt x.pause_pos s.asked
  omega

/-- The clock moves no further than to the limit. -/
theorem next_le_limit {due : Nat} (early : s.now < x.limit)
    (h : ((x.instants s).filter (s.now < ·)).min? = some due) : s.now < due ∧ due ≤ x.limit := by
  obtain ⟨hlt, hleast⟩ := next_le h
  exact ⟨hlt, hleast _ (by simp [instants, Schedule.instants, schedule]) early⟩

/-- Every move leaves less to happen. -/
theorem rank_lt {s' : Standing} (hmove : x.Move s s') : x.rank s' < x.rank s := by
  cases hmove with
  | arrives stage underWay due => simp [rank, stage, underWay]
  | moved stage arrived done succeeds => simp [rank, stage, arrived]
  | graceOver stage polled due => simp [rank, stage]
  | hears idle early stage poller due =>
      have hasked := asked_lt early due
      simp only [rank, poller]
      split <;> split <;> omega
  | asks idle early stage poller due => simp [rank, poller]
  | stops idle early stage =>
      have hpolled := idle.polled (by simp [stage])
      cases hpoller : s.poller <;> simp [rank, hpoller] at hpolled ⊢
  | waits idle early stage sleeps next =>
      have hlimit := next_le_limit early next
      simp only [rank]
      omega

namespace Sound

/-- While the data moves. -/
theorem of_transferring (h : x.Sound s) (stage : s.stage = .transferring) :
    x.Polls s.now s.poller s.asked ∧ s.now ≤ x.limit ∧
      (x.timetable.transferTime = some x.moved → s.now ≤ x.moved) ∧
      (s.arrived = true → x.timetable.transferTime = some x.moved → s.now = x.moved) := by
  cases h with
  | moving _ polls inTime before arrived => exact ⟨polls, inTime, before, arrived⟩
  | settling hstage => rw [stage] at hstage; cases hstage
  | joining hstage => rw [stage] at hstage; cases hstage

/-- The order to move the data arrives when it is due at the latest. -/
theorem arrives (h : x.Sound s) (stage : s.stage = .transferring) (due : x.moved ≤ s.now) :
    x.Sound { s with arrived := true } := by
  obtain ⟨polls, inTime, before, _⟩ := h.of_transferring stage
  exact .moving stage polls inTime before fun _ hdone => Nat.le_antisymm (before hdone) due

/-- A poller that had stopped before the data moved settles the operation at once. -/
theorem moved (h : x.Sound s) (stage : s.stage = .transferring)
    (done : x.timetable.transferTime = some s.now) (succeeds : x.timetable.succeeds) :
    x.Sound { s with stage := .settling, arrived := false } := by
  obtain ⟨polls, inTime, _, _⟩ := h.of_transferring stage
  have hmoved : s.now = x.moved := by simp [Prospect.moved, done]
  have hgraced : s.now ≤ x.moved + x.grace := hmoved.le.trans (Nat.le_add_right ..)
  refine .settling rfl polls inTime (transferTime_eq done) succeeds hmoved.ge hgraced ?_
  intro k hexited hasked
  obtain ⟨j, hj, _, _, hheard⟩ := polls.heard_of_eq hexited
  obtain rfl : k = j := Nat.succ.inj (hasked.symm.trans hj)
  rw [max_eq_left (hheard.trans hmoved.le)]
  exact hmoved

/-- When the grace is over the next answer is still to come. -/
theorem graceOver (hties : x.timetable.Untied x.pause x.grace x.limit) (h : x.Sound s)
    (stage : s.stage = .settling) (polled : s.poller ≠ .exited)
    (due : s.now = x.moved + x.grace) :
    x.Sound { s with stage := .joining, arrived := false } := by
  cases h with
  | moving hstage => rw [stage] at hstage; cases hstage
  | settling _ polls inTime done succeeds since graced prompt =>
      obtain ⟨hbefore, hnext⟩ := polls.open_of_ne polled
      refine .joining rfl inTime done succeeds due (fun h => absurd h polled) hbefore ?_
      refine lt_of_le_of_ne hnext fun htie => ?_
      have := hties succeeds _ done s.asked (.inr (.inl (htie.symm.trans due)))
      omega
  | joining hstage => rw [stage] at hstage; cases hstage

/-- The poller hears what it has asked for when the answer is due. -/
theorem hears (h : x.Sound s) (stage : s.stage ≠ .joining) (poller : s.poller = .asking)
    (due : s.now = x.timetable.answeredAt x.pause s.asked) :
    x.Sound
      { s with
        poller := if x.timetable.isTerminal s.asked then .exited else .resting
        asked := s.asked + 1 } := by
  have hasking : s.poller ≠ .exited := by simp [poller]
  cases h with
  | moving hstage polls inTime before arrived =>
      exact .moving hstage (.hears (polls.open_of_ne hasking).1 due) inTime before arrived
  | settling hstage polls inTime done succeeds since graced prompt =>
      refine .settling hstage (.hears (polls.open_of_ne hasking).1 due) inTime done succeeds since
        graced ?_
      intro k _ hk
      cases hk
      rw [← due, max_eq_right since]
  | joining hstage => exact absurd hstage stage

/-- The poller asks again when it has rested. -/
theorem asks (h : x.Sound s) (stage : s.stage ≠ .joining) (poller : s.poller = .resting)
    (due : s.now + x.timetable.queryDelay = x.timetable.answeredAt x.pause s.asked) :
    x.Sound { s with poller := .asking } := by
  have hresting : s.poller ≠ .exited := by simp [poller]
  have hnext : s.now ≤ x.timetable.answeredAt x.pause s.asked := by omega
  cases h with
  | moving hstage polls inTime before arrived =>
      exact .moving hstage (.asking (polls.open_of_ne hresting).1 hnext) inTime before arrived
  | settling hstage polls inTime done succeeds since graced prompt =>
      refine .settling hstage (.asking (polls.open_of_ne hresting).1 hnext) inTime done succeeds
        since graced ?_
      intro k hexited
      cases hexited
  | joining hstage => exact absurd hstage stage

/-- The poller stops before the limit. -/
theorem stops (h : x.Sound s) (stage : s.stage = .joining) (early : s.now < x.limit) :
    x.Sound { s with poller := .exited } := by
  cases h with
  | moving hstage => rw [stage] at hstage; cases hstage
  | settling hstage => rw [stage] at hstage; cases hstage
  | joining _ inTime done succeeds due prompt before next =>
      exact .joining stage inTime done succeeds due (fun _ => early) before next

/-- The clock passes nothing that is due. -/
theorem waits {due : Nat} (h : x.Sound s) (idle : x.Idle s) (early : s.now < x.limit)
    (stage : s.stage ≠ .joining) (sleeps : ∀ t ∈ x.wake? s, s.now < t)
    (next : ((x.instants s).filter (s.now < ·)).min? = some due) :
    x.Sound { s with now := due } := by
  obtain ⟨hlt, hleast⟩ := next_le next
  have hlimit : due ≤ x.limit := (next_le_limit early next).2
  have hwake : ∀ t ∈ x.wake? s, due ≤ t := by
    intro t ht
    have hmem : t ∈ (x.wake? s).toList := Option.mem_toList.mpr ht
    exact hleast t (List.mem_append_right _ hmem) (sleeps t ht)
  cases h with
  | moving hstage polls inTime before arrived =>
      have hmoving : x.timetable.transferTime = some x.moved → s.arrived = false := by
        intro hdone
        by_contra harrived
        rw [idle.unmoved hstage (by simpa using harrived)] at hdone
        cases hdone
      refine .moving hstage (polls.waits hlt.le hwake) hlimit (fun hdone => ?_) ?_
      · apply hleast _ ?_ (idle.underWay hstage (hmoving hdone))
        simp [instants, Schedule.instants, schedule, hstage]
      · intro harrived hdone
        rw [hmoving hdone] at harrived
        cases harrived
  | settling hstage polls inTime done succeeds since graced prompt =>
      refine .settling hstage (polls.waits hlt.le hwake) hlimit done succeeds
        (since.trans hlt.le) ?_ ?_
      · apply hleast _ ?_ (idle.graced hstage)
        simp [instants, Schedule.instants, schedule, hstage]
      · exact fun _ hexited => absurd hexited (idle.polled (by simp [hstage]))
  | joining hstage => exact absurd hstage stage

/-- **One move.**  What is true stays true. -/
theorem move (hties : x.timetable.Untied x.pause x.grace x.limit) (h : x.Sound s)
    {s' : Standing} (hmove : x.Move s s') : x.Sound s' := by
  cases hmove with
  | arrives stage _ due => exact h.arrives stage due
  | moved stage _ done succeeds => exact h.moved stage done succeeds
  | graceOver stage polled due => exact h.graceOver hties stage polled due
  | hears _ _ stage poller due => exact h.hears stage poller due
  | asks _ _ stage poller due => exact h.asks stage poller due
  | stops _ early stage => exact h.stops stage early
  | waits idle early stage sleeps next => exact h.waits idle early stage sleeps next

end Sound

/-! ## The end -/

/-- A terminal answer comes no earlier than what is still to be heard. -/
theorem Open.le_of_isTerminal {now asked k : Nat} (h : x.Open now asked)
    (terminal : x.timetable.isTerminal k) :
    x.timetable.answeredAt x.pause asked ≤ x.timetable.answeredAt x.pause k := by
  apply (Timetable.strictMono_answeredAt x.pause_pos).monotone
  by_contra hlt
  rw [(h k (Nat.not_le.mp hlt)).1] at terminal
  cases terminal

namespace Sound

/-- A transfer that fails does so when it is due. -/
theorem failed {moved : Nat} (h : x.Sound s) (stage : s.stage = .transferring)
    (arrived : s.arrived = true) (done : x.timetable.transferTime = some moved)
    (fails : x.timetable.succeeds = false) :
    x.timetable.resolution x.pause x.grace x.limit = (.failed, s.now) := by
  obtain ⟨_, inTime, _, hdue⟩ := h.of_transferring stage
  have hdone := transferTime_eq done
  have hnow := hdue arrived hdone
  rw [hnow] at inTime ⊢
  exact Timetable.resolution_of_failure hdone inTime fails

/-- The time limit is reached only by an operation that nothing has settled before. -/
theorem timedOut (hties : x.timetable.Untied x.pause x.grace x.limit) (h : x.Sound s)
    (idle : x.Idle s) (late : x.limit ≤ s.now) :
    x.timetable.resolution x.pause x.grace x.limit = (.timedOut, s.now) := by
  cases h with
  | moving stage polls inTime before arrived =>
      have hnow : s.now = x.limit := Nat.le_antisymm inTime late
      rw [hnow]
      cases hdone : x.timetable.transferTime with
      | none => exact Timetable.resolution_of_never hdone
      | some moved =>
          have hmoved := transferTime_eq hdone
          have hmoving : s.arrived = false := by
            by_contra harrived
            rw [idle.unmoved stage (by simpa using harrived)] at hmoved
            cases hmoved
          have := idle.underWay stage hmoving
          exact Timetable.resolution_of_late hmoved (by omega)
  | settling stage polls inTime done succeeds since graced prompt =>
      have hnow : s.now = x.limit := Nat.le_antisymm inTime late
      obtain ⟨hopen, hnext⟩ := polls.open_of_ne (idle.polled (by simp [stage]))
      rw [hnow] at since graced hnext ⊢
      refine Timetable.resolution_of_limit done since succeeds (fun k hk => ?_) graced
      refine lt_of_le_of_ne (hnext.trans (hopen.le_of_isTerminal hk)) fun htie => ?_
      have := hties succeeds _ done k (.inr (.inr htie.symm))
      omega
  | joining stage inTime done succeeds due prompt before next =>
      have hnow : s.now = x.limit := Nat.le_antisymm inTime late
      rw [hnow]
      refine Timetable.resolution_of_limit done (by omega) succeeds (fun k hk => ?_) (by omega)
      have := before.le_of_isTerminal hk
      omega

/-- A poller that has stopped has heard a terminal answer, or the grace is over. -/
theorem settled (h : x.Sound s) (stage : s.stage ≠ .transferring) (exited : s.poller = .exited) :
    x.timetable.resolution x.pause x.grace x.limit =
      (.heard (x.timetable.statusAfter s.asked), s.now) := by
  cases h with
  | moving hstage => exact absurd hstage stage
  | settling _ polls inTime done succeeds since graced prompt =>
      obtain ⟨k, hasked, before, terminal, heard⟩ := polls.heard_of_eq exited
      have hnow := prompt k exited hasked
      rw [hasked, hnow]
      exact Timetable.resolution_of_terminal x.pause_pos done succeeds terminal
        (fun j hj => (before j hj).1) (heard.trans graced) (hnow ▸ inTime)
  | joining _ inTime done succeeds due prompt before next =>
      have hearly := prompt exited
      have hheard : ∀ k,
          x.timetable.answeredAt x.pause k ≤ x.moved + x.grace ↔ k < s.asked := by
        rw [← due]
        refine fun k => ⟨fun hle => ?_, fun hk => (before k hk).2⟩
        by_contra hlt
        have := (Timetable.strictMono_answeredAt x.pause_pos).monotone (Nat.not_lt.mp hlt)
        omega
      rw [due]
      refine Timetable.resolution_of_graceOver x.pause_pos done succeeds (fun k hk => ?_)
        (by omega) hheard
      have := before.le_of_isTerminal hk
      omega

/-- **The end.**  An operation comes to the end that its timetable has. -/
theorem closes (hties : x.timetable.Untied x.pause x.grace x.limit) (h : x.Sound s)
    {resolution : Resolution} (hcloses : x.Closes s resolution) :
    x.timetable.resolution x.pause x.grace x.limit = (resolution, s.now) := by
  cases hcloses with
  | failed stage arrived done fails => exact h.failed stage arrived done fails
  | timedOut idle late => exact h.timedOut hties idle late
  | settled stage exited => exact h.settled stage exited

end Sound

/-! ## The whole run -/

/-- **Run.**  An operation is over in the end, as its timetable has it. -/
theorem Sound.over (hties : x.timetable.Untied x.pause x.grace x.limit) {e : Engine}
    (h : x.Sound s) (hshows : x.Shows s e) {n : Nat} (hn : x.rank s < n) :
    x.Over (x.timetable.resolution x.pause x.grace x.limit).1
      (x.timetable.resolution x.pause x.grace x.limit).2
      (World.iterate (World.tick x.backend) n (x.world s e)) := by
  induction n generalizing s e with
  | zero => omega
  | succ n ih =>
      rcases h.progress with ⟨s', hmove⟩ | ⟨resolution, hcloses⟩
      · obtain ⟨e', htick, hshows'⟩ := tick_of_move hmove hshows
        have hless : x.rank s' < x.rank s := rank_lt hmove
        rw [World.iterate, htick]
        exact ih (h.move hties hmove) hshows' (by omega)
      · obtain ⟨w, htick, hover⟩ := tick_of_closes hcloses hshows
        have hcourse := x.course_over resolution s.now
        rw [World.iterate, htick, h.closes hties hcloses]
        exact hcourse.iterate (fun _ _ => hcourse.tick) n w hover

theorem sound_start (x : Prospect) : x.Sound start := by
  refine .moving rfl (.asking ?_ ?_) ?_ ?_ ?_
  · exact fun j hj => absurd hj (Nat.not_lt_zero j)
  · exact Nat.zero_le _
  · exact Nat.zero_le _
  · exact fun _ => Nat.zero_le _
  · exact fun h => by cases h

end Prospect

namespace World

open Engine

/-- **How and when an operation is over.**  An operation of any engine waits for a job
that it has ordered.  The job is accepted; from then on its collaborators keep to a
timetable in which not everything happens at once, and nothing else is scheduled.
Then the operation is over in the end, as and when the timetable says, and it has
succeeded exactly if it has heard that its job is done. -/
theorem ends_as_timetabled (r : Registry) (stimuli : List Stimulus)
    (hkeeps : KeepsJobs ((ofRegistry r).run stimuli).2) (id : Nat) (op : Operation) (call : Call)
    (job : JobHandle)
    (found : ((ofRegistry r).run stimuli).1.operations.get? id = some op)
    (waits : op.call? = some call) (orders : call.job? = some job) (t : Timetable)
    (takesTime : 0 < op.settings.pollInterval.nanos + t.queryDelay)
    (untied : t.Untied op.settings.pollInterval.nanos op.settings.confirmGrace.nanos
      op.settings.operationTimeout.nanos) :
    let due := t.resolution op.settings.pollInterval.nanos op.settings.confirmGrace.nanos
      op.settings.operationTimeout.nanos
    ∃ outcome, op.outcome? due.1 = some outcome ∧
      ((∃ success, outcome = .ok success) ↔ due.1 = .heard .done) ∧
      ∃ enough, ∀ n, enough ≤ n →
        (iterate (tick t.backend) n
          ((ofEngine ((ofRegistry r).run stimuli).1 0).accept t.backend id job)).endings.get? id =
            some ⟨some outcome, 0, due.2⟩ := by
  intro due
  have htrace := trace_run r stimuli
  obtain ⟨hbefore, hjob, action, object, hmoves, hresume⟩ :=
    Operation.resume_accepted waits orders ((ofRegistry r).run stimuli).1.registry
  let x : Prospect :=
    { timetable := t, id := id, op := op, job := job, action := action, object := object
      ordered := hjob, moves := hmoves, takesTime := takesTime }
  -- The marker was taken for this very job, and its poller is still to be started.
  obtain ⟨hknown, hnoted⟩ := noted_trace htrace hkeeps id op job found hjob
  have hunpolled := (owned_trace htrace).poller_absent found hbefore
  rw [lastHeard_eq_none ((heard_trace htrace).unserved id hunpolled)] at hnoted
  obtain ⟨e, haccept, hshows⟩ := Prospect.accept_eq (x := x) found hresume hknown hnoted
  have hover := fun n => x.sound_start.over (n := n) untied hshows
  obtain ⟨outcome, (houtcome : op.outcome? due.1 = some outcome), _, _⟩ :=
    hover _ (Nat.lt_succ_self _)
  refine ⟨outcome, houtcome, ?_, x.rank Prospect.start + 1, ?_⟩
  · rw [← Operation.exists_outcome?_eq_ok_iff hjob due.1, houtcome]
    simp
  · intro n hn
    obtain ⟨other, hother, _, hending⟩ := hover n hn
    cases houtcome.symm.trans hother
    rw [← haccept] at hending
    exact hending

/-- A transfer of two seconds, questions that take one, and a job that is done when it
is asked after for the second time. -/
def unhurried : Timetable where
  transferTime := some 2000000000
  succeeds := true
  queryDelay := 1000000000
  answers k := if k = 0 then .ok .inProgress else .ok .done

/-- A backup that waits for its job. -/
def orderedBackup : Operation :=
  .backup
    { settings := .default "mover:9000"
      volumeId := "pvc-1"
      backupName := "daily-01"
      snapshotId := "pvc-1-velero-bkp-daily-01"
      claimNamespace := "apps"
      stage := .ordering }

/-- The second answer comes after seven seconds, well within the grace. -/
theorem ends_as_timetabled_daily :
    let stimuli := backupUnderWay.dropLast
    let job : JobHandle := ⟨.backup, "daily-01", "pvc-1", "apps"⟩
    let settings := orderedBackup.settings
    KeepsJobs ((ofRegistry oneVolume).run stimuli).2 ∧
      ((ofRegistry oneVolume).run stimuli).1.operations.get? 0 = some orderedBackup ∧
      (∃ call, orderedBackup.call? = some call ∧ call.job? = some job) ∧
      0 < settings.pollInterval.nanos + unhurried.queryDelay ∧
      unhurried.Untied settings.pollInterval.nanos settings.confirmGrace.nanos
        settings.operationTimeout.nanos ∧
      ∃ enough, ∀ n, enough ≤ n →
        (iterate (tick unhurried.backend) n
          ((ofEngine ((ofRegistry oneVolume).run stimuli).1 0).accept unhurried.backend 0
            job)).endings.get? 0 =
          some ⟨some (.ok (.backedUp "pvc-1-velero-bkp-daily-01")), 0, 7000000000⟩ := by
  intro stimuli job settings
  have hkeeps : KeepsJobs ((ofRegistry oneVolume).run stimuli).2 := by decide
  have htakes : 0 < settings.pollInterval.nanos + unhurried.queryDelay := by decide
  have huntied : unhurried.Untied settings.pollInterval.nanos settings.confirmGrace.nanos
      settings.operationTimeout.nanos := by
    intro _ moved hmoved k htie
    cases hmoved
    have hpause : settings.pollInterval.nanos = 5000000000 := rfl
    have hgrace : settings.confirmGrace.nanos = 30000000000 := rfl
    have hlimit : settings.operationTimeout.nanos = 3600000000000 := rfl
    simp only [Timetable.answeredAt, unhurried, hpause, hgrace, hlimit] at htie
    omega
  have hsecond : max 2000000000 (unhurried.answeredAt settings.pollInterval.nanos 1) =
      7000000000 := by decide
  have hdone : unhurried.statusAfter 2 = .done := rfl
  have hdue : unhurried.resolution settings.pollInterval.nanos settings.confirmGrace.nanos
      settings.operationTimeout.nanos = (.heard .done, 7000000000) := by
    rw [Timetable.resolution_of_terminal (k := 1) htakes rfl rfl rfl (by decide) (by decide)
      (by decide), hsecond, hdone]
  obtain ⟨outcome, houtcome, _, hends⟩ := ends_as_timetabled oneVolume stimuli hkeeps 0
    orderedBackup _ job rfl rfl rfl unhurried htakes huntied
  rw [hdue] at houtcome hends
  cases houtcome
  exact ⟨hkeeps, rfl, ⟨_, rfl, rfl⟩, htakes, huntied, hends⟩

end World

end SnapshotEngine
