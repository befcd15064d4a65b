import SnapshotEngine.Proofs.Engine.Owned

/-!
# What a poller has heard

What was served to the poller of an operation is read off the events of a run.
A poller that has heard a terminal status has stopped, so nothing was served to
it since.

* `answersTo`, `lastAnswer`, `lastHeard` — what was served, and what of it was
  heard last;
* `Effect.poller` — what a step makes of a poller;
* `heard_trace` — a poller without answers, and one that has heard the end.
-/

namespace SnapshotEngine

/-- What an event serves to the poller of an operation. -/
def Event.servedTo? (id : Nat) :
    Event → Option (JobHandle × Except ControlPlaneError JobStatus)
  | .served other job answer => if other = id then some (job, answer) else none
  | _ => none

/-- All that was served to the poller of an operation. -/
def answersTo (id : Nat) (events : List Event) :
    List (JobHandle × Except ControlPlaneError JobStatus) :=
  events.filterMap (Event.servedTo? id)

/-- The last answer that was served to the poller of an operation. -/
def lastAnswer (id : Nat) (events : List Event) :
    Option (JobHandle × Except ControlPlaneError JobStatus) :=
  (answersTo id events).getLast?

/-- The last status among the answers that were served to the poller of an
operation. -/
def lastHeard (id : Nat) (events : List Event) : Option JobStatus :=
  ((answersTo id events).filterMap fun answer => answer.2.toOption).getLast?

theorem answersTo_append (id : Nat) (past later : List Event) :
    answersTo id (past ++ later) = answersTo id past ++ answersTo id later :=
  List.filterMap_append

theorem answersTo_eq_nil {id : Nat} {events : List Event}
    (h : ∀ job answer, Event.served id job answer ∉ events) : answersTo id events = [] := by
  apply List.filterMap_eq_nil_iff.mpr
  intro event hmem
  cases event with
  | served other job answer =>
      apply if_neg
      rintro rfl
      exact h job answer hmem
  | _ => rfl

/-- Events that serve nothing to a poller leave what it has heard as it was. -/
theorem last_append_of_silent {id : Nat} {later : List Event} (h : answersTo id later = [])
    (past : List Event) :
    lastHeard id (past ++ later) = lastHeard id past ∧
      lastAnswer id (past ++ later) = lastAnswer id past := by
  unfold lastHeard lastAnswer
  rw [answersTo_append, h, List.append_nil]
  exact ⟨rfl, rfl⟩

/-- A status that is served is heard last. -/
theorem last_append_of_status {id : Nat} {later : List Event} {job : JobHandle}
    {status : JobStatus} (h : answersTo id later = [(job, .ok status)]) (past : List Event) :
    lastHeard id (past ++ later) = some status ∧
      lastAnswer id (past ++ later) = some (job, .ok status) := by
  unfold lastHeard lastAnswer
  rw [answersTo_append, h]
  simp [Except.toOption]

/-- An error that is served is no status. -/
theorem lastHeard_append_of_error {id : Nat} {later : List Event} {job : JobHandle}
    {cause : ControlPlaneError} (h : answersTo id later = [(job, .error cause)])
    (past : List Event) : lastHeard id (past ++ later) = lastHeard id past := by
  unfold lastHeard
  rw [answersTo_append, h]
  simp [Except.toOption]

theorem lastHeard_eq_none {id : Nat} {events : List Event} (h : answersTo id events = []) :
    lastHeard id events = none := by
  unfold lastHeard
  rw [h]
  rfl

namespace Engine

/-- Only a stimulus for a poller serves it anything. -/
theorem Effect.silent {e e' : Engine} {s : Stimulus} {events : List Event} {id : Nat}
    (h : Effect e s e' events) (hother : ∀ signal, s ≠ .woken id signal) :
    answersTo id events = [] := by
  apply answersTo_eq_nil
  intro job answer hmem
  exact hother _ (h.of_served hmem).1

/-- Nothing is served where there is no poller. -/
theorem Effect.silent_of_absent {e e' : Engine} {s : Stimulus} {events : List Event} {id : Nat}
    (h : Effect e s e' events) (absent : e.pollers.get? id = none) :
    answersTo id events = [] := by
  apply answersTo_eq_nil
  intro job answer hmem
  obtain ⟨_, p, found, _⟩ := h.of_served hmem
  cases absent.symm.trans found

/-- Where a poller after a step comes from, and what was served to it. -/
inductive PollerEffect (e : Engine) (id : Nat) (events : List Event) : Poller → Prop where
  /-- The transfer of its operation has just started. -/
  | fresh {op : Operation} {job : JobHandle} {pause : Duration}
      (found : e.operations.get? id = some op) (before : op.confirmation? = none)
      (silent : answersTo id events = []) : PollerEffect e id events (.start job pause)
  /-- It was there, and at most it was cancelled. -/
  | kept {p p' : Poller} (found : e.pollers.get? id = some p) (job : p'.job = p.job)
      (stage : p'.stage = p.stage) (silent : answersTo id events = []) :
      PollerEffect e id events p'
  | heard {p : Poller} {status : JobStatus} (found : e.pollers.get? id = some p)
      (asking : p.stage = .asking) (live : p.cancelled = false)
      (served : answersTo id events = [(p.job, .ok status)]) :
      PollerEffect e id events (p.advance (.answered (.ok status)))
  | unheard {p : Poller} {cause : ControlPlaneError} (found : e.pollers.get? id = some p)
      (asking : p.stage = .asking) (served : answersTo id events = [(p.job, .error cause)]) :
      PollerEffect e id events (p.advance (.answered (.error cause)))
  | woken {p : Poller} {signal : PollerSignal} (found : e.pollers.get? id = some p)
      (silent : answersTo id events = []) : PollerEffect e id events (p.advance signal)

/-- What a step makes of the poller of an operation that waits again. -/
theorem poller_keep {e : Engine} {id k : Nat} {signal : Signal} {r : Registry}
    {op next : Operation} {p : Poller} {events : List Event}
    (found : e.operations.get? id = some op) (goes : op.GoesOn e.registry signal r next)
    (silent : answersTo k events = []) (hp : (e.keep id r next).pollers.get? k = some p) :
    PollerEffect e k events p := by
  by_cases hk : id = k
  · subst hk
    rw [get?_pollers_keep] at hp
    cases goes with
    | approached before after kept =>
        rw [after] at hp
        exact .kept hp rfl rfl silent
    | took free after holds unknown takes =>
        rw [after] at hp
        exact .kept hp rfl rfl silent
    | accepted before waited ordered kept after handle stage =>
        simp only [after, Option.map_some, stage] at hp
        cases hp
        exact .fresh found before silent
    | continued before after advance kept =>
        rcases Confirmation.advance_eq_continues advance with ⟨_, _, rfl⟩ | ⟨_, _, rfl⟩
        · simp only [after, Option.map_some] at hp
          exact .kept hp rfl rfl silent
        · simp only [after, Option.map_some] at hp
          obtain ⟨q, hq, rfl⟩ := Option.map_eq_some_iff.mp hp
          exact .kept hq rfl rfl silent
  · rw [get?_pollers_keep_other hk] at hp
    exact .kept hp rfl rfl silent

/-- A poller that was at most cancelled. -/
theorem poller_cancel {e : Engine} {id k : Nat} {p : Poller} {events : List Event}
    (silent : answersTo k events = [])
    (hp : (if id = k then (e.pollers.get? k).map .cancel else e.pollers.get? k) = some p) :
    PollerEffect e k events p := by
  split at hp
  · obtain ⟨q, hq, rfl⟩ := Option.map_eq_some_iff.mp hp
    exact .kept hq rfl rfl silent
  · exact .kept hp rfl rfl silent

/-- **Step.**  What a step makes of a poller. -/
theorem Effect.poller {e e' : Engine} {s : Stimulus} {events : List Event} {k : Nat}
    {p : Poller} (h : Effect e s e' events) (hp : e'.pollers.get? k = some p) :
    PollerEffect e k events p := by
  have hsilent : (∀ signal, s ≠ .woken k signal) → answersTo k events = [] := h.silent
  cases h with
  | idle unordered => exact .kept hp rfl rfl rfl
  | started start =>
      rename_i r op
      have hnone := (Operation.start_waits start).2.1
      have hsame : (({ e with next := e.next + 1 } : Engine).keep e.next r op).pollers.get? k =
          e.pollers.get? k := by
        by_cases hk : e.next = k
        · subst hk
          rw [get?_pollers_keep, hnone]
          rfl
        · exact get?_pollers_keep_other hk r op
      exact .kept (hsame.symm.trans hp) rfl rfl (hsilent nofun)
  | refused start => exact .kept hp rfl rfl (hsilent nofun)
  | looked => exact .kept hp rfl rfl (hsilent nofun)
  | wentOn found admits resume =>
      exact poller_keep found (Operation.goesOn_of_resume resume) (hsilent nofun) hp
  | ended found admits resume =>
      rw [get?_pollers_remove] at hp
      exact poller_cancel (hsilent nofun) hp
  | dropped found =>
      rw [get?_pollers_remove] at hp
      exact poller_cancel (hsilent nofun) hp
  | heard found asking live =>
      rename_i id q status
      rw [Table.get?_insert] at hp
      split at hp
      · rename_i heq
        subst heq
        cases hp
        exact .heard found asking live (by simp [answersTo, Event.servedTo?])
      · rename_i hne
        exact .kept hp rfl rfl (hsilent fun _ heq => by cases heq; exact hne rfl)
  | unheard found asking live =>
      rename_i id q cause
      rw [Table.get?_insert] at hp
      split at hp
      · rename_i heq
        subst heq
        cases hp
        exact .unheard found asking (by simp [answersTo, Event.servedTo?])
      · rename_i hne
        exact .kept hp rfl rfl (hsilent fun _ heq => by cases heq; exact hne rfl)
  | unserved found =>
      rw [Table.get?_insert] at hp
      split at hp
      · rename_i heq
        subst heq
        cases hp
        exact .woken found rfl
      · exact .kept hp rfl rfl rfl

/-- A poller that is there stays there. -/
theorem Effect.pollers_mono {e e' : Engine} {s : Stimulus} {events : List Event} {k : Nat}
    (h : Effect e s e' events) (absent : e'.pollers.get? k = none) :
    e.pollers.get? k = none := by
  have hkeep : ∀ (f : Engine) id r op, (f.keep id r op).pollers.get? k = none →
      f.pollers.get? k = none := by
    intro f id r op hnone
    by_cases hk : id = k
    · subst hk
      rw [get?_pollers_keep] at hnone
      split at hnone
      · cases hnone
      · exact Option.map_eq_none_iff.mp hnone
      · exact hnone
    · rw [get?_pollers_keep_other hk] at hnone
      exact hnone
  have hcancel : ∀ id, (e.pollers.modify id .cancel).get? k = none → e.pollers.get? k = none := by
    intro id hnone
    rw [Table.get?_modify] at hnone
    split at hnone
    · exact Option.map_eq_none_iff.mp hnone
    · exact hnone
  have hinsert : ∀ id p, (e.pollers.insert id p).get? k = none → e.pollers.get? k = none := by
    intro id p hnone
    rw [Table.get?_insert] at hnone
    split at hnone
    · cases hnone
    · exact hnone
  cases h with
  | started start => exact hkeep { e with next := e.next + 1 } _ _ _ absent
  | wentOn found admits resume => exact hkeep _ _ _ _ absent
  | ended found admits resume => exact hcancel _ absent
  | dropped found => exact hcancel _ absent
  | heard found asking live => exact hinsert _ _ absent
  | unheard found asking live => exact hinsert _ _ absent
  | unserved found => exact hinsert _ _ absent
  | _ => exact absent

/-- Nothing was served where there is no poller, and a poller that has heard a
terminal status has stopped and heard nothing since. -/
structure Heard (e : Engine) (events : List Event) : Prop where
  unserved : ∀ id, e.pollers.get? id = none → answersTo id events = []
  stopped : ∀ id p status, e.pollers.get? id = some p → lastHeard id events = some status →
    status.isTerminal → p.stage = .exited ∧ lastAnswer id events = some (p.job, .ok status)

/-- **Step.** -/
theorem Heard.effect {e e' : Engine} {s : Stimulus} {past events : List Event}
    (h : Heard e past) (hown : Owned e) (heffect : Effect e s e' events) :
    Heard e' (past ++ events) where
  unserved id absent := by
    have hbefore := heffect.pollers_mono absent
    rw [answersTo_append, h.unserved id hbefore, heffect.silent_of_absent hbefore]
    rfl
  stopped id p status hp hheard hterminal := by
    cases heffect.poller hp with
    | fresh found before silent =>
        -- No poller was there before, so none has heard anything.
        have habsent := hown.poller_absent found before
        rw [(last_append_of_silent silent past).1,
          lastHeard_eq_none (h.unserved id habsent)] at hheard
        cases hheard
    | kept found job stage silent =>
        obtain ⟨hlast, hanswer⟩ := last_append_of_silent silent past
        rw [hlast] at hheard
        rw [stage, job, hanswer]
        exact h.stopped id _ status found hheard hterminal
    | heard found asking live served =>
        obtain ⟨hlast, hanswer⟩ := last_append_of_status served past
        cases hlast.symm.trans hheard
        refine ⟨Poller.stage_advance_of_isTerminal asking live hterminal, ?_⟩
        rw [hanswer, (Poller.job_advance _ _).1]
    | unheard found asking served =>
        rw [lastHeard_append_of_error served] at hheard
        have hexited := (h.stopped id _ status found hheard hterminal).1
        cases asking.symm.trans hexited
    | woken found silent =>
        obtain ⟨hlast, hanswer⟩ := last_append_of_silent silent past
        rw [hlast] at hheard
        obtain ⟨hexited, hbefore⟩ := h.stopped id _ status found hheard hterminal
        rw [Poller.advance_of_exited hexited, hanswer]
        exact ⟨hexited, hbefore⟩

/-- **Run.** -/
theorem heard_trace {r : Registry} {stimuli : List Stimulus} {e : Engine} {events : List Event}
    (h : Trace r stimuli e events) : Heard e events := by
  induction h with
  | start => exact ⟨fun _ _ => rfl, fun _ _ _ hp => by cases hp⟩
  | step before s ih => exact ih.effect (owned_trace before) (effect_step _ s)

end Engine

end SnapshotEngine
