import SnapshotEngine.Proofs.Engine.Account
import SnapshotEngine.Proofs.Engine.Cache

/-!
# Attempts to remove a snapshot

As long as a snapshot is kept, every removal of its identifier has the snapshot in hand
from its start on.  So each one makes the same calls as all the others, whatever has become
of those, and one that fails has changed nothing.

* `courses_run` — a removal follows the course that its start has set;
* `attempt_of_cached` — with a snapshot that is kept, that is an attempt on it;
* `Attempted`, `attempted_of_cached` — what is seen of an attempt.
-/

namespace SnapshotEngine

namespace Engine

/-- An operation goes by the place of its order. -/
theorem order_of_next (r : Registry) (first rest : List Stimulus) (settings : Settings)
    (order : Order) :
    (ordersOf (first ++ .ordered settings order :: rest))[((ofRegistry r).run first).1.next]? =
      some (settings, order) := by
  rw [(serving_trace (trace_run r first)).placed]
  simp [ordersOf, Stimulus.order?]

/-- **Run.**  A removal follows the course that its start has set, whatever happens. -/
theorem courses_run (r : Registry) (first rest : List Stimulus) (settings : Settings)
    (id : String) :
    let e := ((ofRegistry r).run first).1
    let after := (ofRegistry r).run (first ++ .ordered settings (.removal id) :: rest)
    ∃ stands, Courses after.1 after.2 e.next settings
      (Removal.standing (Removal.start e.registry settings id)) stands := by
  intro e after
  induction rest using List.reverseRecOn with
  | nil =>
      have htrace := trace_run r first
      simp only [after]
      rw [run_concat]
      refine courses_of_start (owned_trace htrace) ?_ (effect_step _ _)
      intro event hmem hnumber
      exact Nat.lt_irrefl _ (htrace.number_lt hmem hnumber)
  | append_singleton rest s ih =>
      obtain ⟨stands, hcourses⟩ := ih
      have hsplit : first ++ .ordered settings (.removal id) :: (rest ++ [s]) =
          (first ++ .ordered settings (.removal id) :: rest) ++ [s] := by simp
      simp only [after]
      rw [hsplit, run_concat]
      exact hcourses.effect (serving_trace (trace_run r _))
        (order_of_next r first rest settings _) (effect_step _ s)

/-- The outcome of an operation is the one that its end shows. -/
theorem Trace.outcomeOf?_eq_some_iff {r : Registry} {stimuli : List Stimulus} {e : Engine}
    {events : List Event} (h : Trace r stimuli e events) (j : Nat) (outcome : Outcome) :
    outcomeOf? j events = some outcome ↔ .ended j outcome ∈ events := by
  have hshown : ∀ {outcome'}, outcomeOf? j events = some outcome' → .ended j outcome' ∈ events := by
    intro outcome' houtcome
    obtain ⟨event, hmem, hend⟩ := List.exists_of_findSome?_eq_some houtcome
    cases event with
    | ended other outcome'' =>
        simp only [Event.endOf?, Option.ite_none_right_eq_some, Option.some.injEq] at hend
        obtain ⟨rfl, rfl⟩ := hend
        exact hmem
    | _ => cases hend
  refine ⟨hshown, fun hended => ?_⟩
  cases houtcome : outcomeOf? j events with
  | none =>
      have hnone := List.findSome?_eq_none_iff.mp houtcome _ hended
      simp [Event.endOf?] at hnone
  | some outcome' => rw [ended_once h (hshown houtcome) hended]

/-- A removal of a snapshot that is kept, and of which nothing is missing, is an attempt on
that snapshot. -/
theorem attempt_of_cached {r : Registry} {first : List Stimulus} {id : String} {sn : Snapshot}
    (hcached : ((ofRegistry r).run first).1.registry.snapshot? id = some sn)
    (hcomplete : sn.missingField = none) (settings : Settings) (rest : List Stimulus) :
    let j := ((ofRegistry r).run first).1.next
    let events := ((ofRegistry r).run (first ++ .ordered settings (.removal id) :: rest)).2
    ∃ so, Removal.Attempt settings sn (repliesTo j events) (callsOf j events) so ∧
      outcomeOf? j events = so.getRight? := by
  intro j events
  obtain ⟨so, hcourses⟩ := courses_run r first rest settings id
  have hstart : Removal.standing
      (Removal.start ((ofRegistry r).run first).1.registry settings id) =
        .inl (.retracting sn) := by
    simp only [Removal.start, hcached, Removal.standing_retract, hcomplete]
  rw [hstart] at hcourses
  exact ⟨so, Removal.attempt_of_course hcourses.course, hcourses.outcome⟩

/-- What is seen of an attempt to remove a snapshot: the one command, the deletion of the
object once the backup is gone and not before, success with the two of them and failure
without either; and a failure has left the registry alone. -/
structure Attempted (r : Registry) (stimuli : List Stimulus) (settings : Settings)
    (sn : Snapshot) (j : Nat) : Prop where
  commands : callsOf j ((ofRegistry r).run stimuli).2 = [sn.retraction] ∨
    callsOf j ((ofRegistry r).run stimuli).2 = [sn.retraction, sn.erasure settings]
  erases : sn.erasure settings ∈ callsOf j ((ofRegistry r).run stimuli).2 ↔
    ∃ result, .retracted result ∈ repliesTo j ((ofRegistry r).run stimuli).2 ∧
      Removal.Retracts result
  succeeds : ∀ success, .ended j (.ok success) ∈ ((ofRegistry r).run stimuli).2 ↔
    success = .deleted ∧
      (∃ result, .retracted result ∈ repliesTo j ((ofRegistry r).run stimuli).2 ∧
        Removal.Retracts result) ∧
      .moved true ∈ repliesTo j ((ofRegistry r).run stimuli).2
  fails : (∃ cause, .ended j (.error cause) ∈ ((ofRegistry r).run stimuli).2) ↔
    (∃ result, .retracted result ∈ repliesTo j ((ofRegistry r).run stimuli).2 ∧
      ¬ Removal.Retracts result) ∨
      .moved false ∈ repliesTo j ((ofRegistry r).run stimuli).2
  unchanged : ∀ cause, .ended j (.error cause) ∈ ((ofRegistry r).run stimuli).2 →
    LeavesAlone r stimuli j fun registry => registry

/-- **Attempts.**  Every removal of a snapshot that is kept is such an attempt. -/
theorem attempted_of_cached {r : Registry} {first : List Stimulus} {id : String} {sn : Snapshot}
    (hcached : ((ofRegistry r).run first).1.registry.snapshot? id = some sn)
    (hcomplete : sn.missingField = none) (settings : Settings) (rest : List Stimulus) :
    Attempted r (first ++ .ordered settings (.removal id) :: rest) settings sn
      ((ofRegistry r).run first).1.next := by
  obtain ⟨so, hattempt, houtcome⟩ := attempt_of_cached hcached hcomplete settings rest
  have hended : ∀ outcome, so = .inr outcome ↔
      .ended ((ofRegistry r).run first).1.next outcome ∈
        ((ofRegistry r).run (first ++ .ordered settings (.removal id) :: rest)).2 := by
    intro outcome
    rw [← (trace_run r _).outcomeOf?_eq_some_iff, houtcome]
    cases so <;> simp
  refine ⟨hattempt.calls_eq, hattempt.erasure_mem_iff, ?_, ?_, ?_⟩
  · intro success
    rw [← hended]
    exact hattempt.eq_deleted_iff success
  · rw [← hattempt.eq_error_iff]
    exact exists_congr fun cause => (hended _).symm
  · intro cause hfailed
    refine registry_left_alone hfailed fun call hmem => ?_
    rcases hattempt.calls_eq with hcalls | hcalls <;> rw [hcalls] at hmem
    · rw [List.mem_singleton] at hmem
      subst hmem
      rfl
    · simp only [List.mem_cons, List.not_mem_nil, or_false] at hmem
      rcases hmem with rfl | rfl <;> rfl

end Engine

end SnapshotEngine
