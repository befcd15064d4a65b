import SnapshotEngine.Proofs.Engine.Confirmation

/-!
# Which calls are made

An operation makes a call whenever it begins to wait, so from its start to its end
it can be told from the calls: whoever has made one and is not over is in progress.
And behind every call stands an operation that waits for its answer, in an engine
that was reached.

* `Operation.call?_of_untransferred` — what an operation without a transfer waits for;
* `Effect.of_called`, `Trace.caller`, `Trace.caller_serves` — the operation behind a
  call;
* `Live`, `Trace.live_iff` — who is in progress;
* `Trace.number_lt` — whatever is seen is about an operation that was started;
* `Finished.quiet`, `Finished.uncalled` — nothing more is seen of whoever is over.
-/

namespace SnapshotEngine

/-- An operation without a transfer waits for a call. -/
theorem Operation.call?_of_untransferred {op : Operation} (h : op.confirmation? = none) :
    ∃ call, op.call? = some call := by
  cases op with
  | backup b =>
      cases hstage : b.stage with
      | confirming c => simp [confirmation?, hstage] at h
      | _ => simp [call?, Backup.call?, hstage]
  | restore t =>
      cases hstage : t.stage with
      | confirming target c => simp [confirmation?, hstage] at h
      | _ => simp [call?, Restore.call?, hstage]
  | removal d => cases hstage : d.stage <;> simp [call?, Removal.call?, hstage]

/-- The operation that an event is about. -/
def Event.number? : Event → Option Nat
  | .called id _ | .answered id _ _ | .ended id _ | .dropped id => some id
  | .served _ _ _ | .discovered _ => none

/-- An operation that has made a call and is not over. -/
def Live (events : List Event) (id : Nat) : Prop :=
  (∃ call, .called id call ∈ events) ∧ ∀ event ∈ events, event.closes? ≠ some id

namespace Engine

/-- The operation that has made a call is in progress after the step, and waits for
the answer. -/
theorem Effect.of_called {e e' : Engine} {s : Stimulus} {events : List Event} {id : Nat}
    {call : Call} (h : Effect e s e' events) (hmem : .called id call ∈ events) :
    ∃ op, e'.operations.get? id = some op ∧ op.call? = some call := by
  cases h.calledBy hmem with
  | started number start waits => exact ⟨_, by rw [get?_operations_keep, if_pos rfl], waits⟩
  | wentOn found resume waits => exact ⟨_, by rw [get?_operations_keep, if_pos rfl], waits⟩

/-- **Callers.**  Behind every call of a run stands an operation that waits for its
answer in an engine that was reached. -/
theorem Trace.caller {r : Registry} {stimuli : List Stimulus} {e : Engine} {events : List Event}
    {id : Nat} {call : Call} (h : Trace r stimuli e events) (hmem : .called id call ∈ events) :
    ∃ first rest e₁ past later op, stimuli = first ++ rest ∧ events = past ++ later ∧
      Trace r first e₁ past ∧ e₁.operations.get? id = some op ∧ op.call? = some call := by
  induction h with
  | start => cases hmem
  | step before s ih =>
      rename_i stimuli e events
      rcases List.mem_append.mp hmem with hpast | hnow
      · obtain ⟨first, rest, e₁, past, later, op, rfl, rfl, htrace, hop, hcall⟩ := ih hpast
        exact ⟨first, rest ++ [s], e₁, past, later ++ (e.step s).2, op, by simp, by simp, htrace,
          hop, hcall⟩
      · obtain ⟨op, hop, hcall⟩ := (effect_step e s).of_called hnow
        exact ⟨stimuli ++ [s], [], _, events ++ (e.step s).2, [], op, by simp, by simp,
          before.step s, hop, hcall⟩

/-- **Callers.**  That operation serves the order of its number, and moves its own
data. -/
theorem Trace.caller_serves {r : Registry} {stimuli : List Stimulus} {e : Engine}
    {events : List Event} {id : Nat} {call : Call} {settings : Settings} {order : Order}
    (h : Trace r stimuli e events) (hmem : .called id call ∈ events)
    (horder : (ordersOf stimuli)[id]? = some (settings, order)) :
    ∃ first rest e₁ past later op, stimuli = first ++ rest ∧ events = past ++ later ∧
      Trace r first e₁ past ∧ e₁.operations.get? id = some op ∧ op.call? = some call ∧
        op.Serves settings order ∧ op.Moves := by
  obtain ⟨first, rest, e₁, past, later, op, rfl, rfl, htrace, hop, hcall⟩ := h.caller hmem
  have hserving := serving_trace htrace
  obtain ⟨settings', order', horder', hserves⟩ := hserving.serves id op hop
  have hid := (List.getElem?_eq_some_iff.mp horder').1
  rw [ordersOf, List.filterMap_append] at horder
  cases horder'.symm.trans ((List.getElem?_append_left hid).symm.trans horder)
  exact ⟨first, rest, e₁, past, later, op, rfl, rfl, htrace, hop, hcall, hserves,
    hserving.moves id op hop⟩

/-- **Steps.**  An operation that is in progress after a step was so before, or has
made a call. -/
theorem Effect.called_of_waits {e e' : Engine} {s : Stimulus} {events : List Event} {k : Nat}
    {op : Operation} (h : Effect e s e' events) (hop : e'.operations.get? k = some op) :
    (∃ op₀, e.operations.get? k = some op₀) ∨ ∃ call, .called k call ∈ events := by
  cases h.operation hop with
  | started number registry start =>
      obtain ⟨call, hcall⟩ :=
        Operation.call?_of_untransferred (Operation.start_waits start).2.1
      exact .inr ⟨call, mem_callEvents.mpr ⟨call, hcall, rfl⟩⟩
  | wentOn found registry resume => exact .inl ⟨_, found⟩
  | kept found unanswered => exact .inl ⟨_, found⟩

/-- **Steps.**  An operation that was in progress still is, or its end is seen. -/
theorem Effect.closed_of_absent {e e' : Engine} {s : Stimulus} {events : List Event} {k : Nat}
    {op : Operation} (h : Effect e s e' events) (found : e.operations.get? k = some op)
    (absent : e'.operations.get? k = none) : ∃ event ∈ events, event.closes? = some k := by
  have hkeep : ∀ (f : Engine) id r next, f.operations = e.operations →
      (f.keep id r next).operations.get? k = none → False := by
    intro f id r next hsame hnone
    rw [get?_operations_keep] at hnone
    split at hnone
    · cases hnone
    · rw [hsame] at hnone
      cases hnone.symm.trans found
  cases h with
  | started start => exact (hkeep { e with next := e.next + 1 } _ _ _ rfl absent).elim
  | wentOn found' admits resume => exact (hkeep _ _ _ _ rfl absent).elim
  | ended found' admits resume =>
      rename_i id signal op' r outcome
      rw [get?_operations_remove] at absent
      split at absent
      · rename_i heq
        subst heq
        exact ⟨.ended id outcome, by simp, rfl⟩
      · cases absent.symm.trans found
  | dropped found' =>
      rename_i id op'
      rw [get?_operations_remove] at absent
      split at absent
      · rename_i heq
        subst heq
        exact ⟨.dropped id, by simp, rfl⟩
      · cases absent.symm.trans found
  | _ => cases absent.symm.trans found

/-- Every operation in progress has made a call, and the one that it waits for; and
whoever has made a call is in progress or over. -/
structure Called (e : Engine) (events : List Event) : Prop where
  waits : ∀ id op, e.operations.get? id = some op → ∃ call, .called id call ∈ events
  awaits : ∀ id op call, e.operations.get? id = some op → op.call? = some call →
    .called id call ∈ events
  calls : ∀ id call, .called id call ∈ events →
    (∃ op, e.operations.get? id = some op) ∨ ∃ event ∈ events, event.closes? = some id

/-- **Step.** -/
theorem Called.effect {e e' : Engine} {s : Stimulus} {past events : List Event}
    (h : Called e past) (heffect : Effect e s e' events) : Called e' (past ++ events) where
  waits id op hop := by
    rcases heffect.called_of_waits hop with ⟨op₀, found⟩ | ⟨call, hmem⟩
    · obtain ⟨call, hmem⟩ := h.waits id op₀ found
      exact ⟨call, List.mem_append_left events hmem⟩
    · exact ⟨call, List.mem_append_right past hmem⟩
  awaits id op call hop hcall := by
    cases heffect.operation hop with
    | started number registry start =>
        exact List.mem_append_right past (mem_callEvents.mpr ⟨call, hcall, rfl⟩)
    | wentOn found registry resume =>
        apply List.mem_append_right
        exact List.mem_append_right _ (mem_callEvents.mpr ⟨call, hcall, rfl⟩)
    | kept found unanswered => exact List.mem_append_left events (h.awaits id op call found hcall)
  calls id call hmem := by
    rcases List.mem_append.mp hmem with hpast | hnow
    · rcases h.calls id call hpast with ⟨op, found⟩ | ⟨event, hevent, hcloses⟩
      · cases habsent : e'.operations.get? id with
        | some op' => exact .inl ⟨op', rfl⟩
        | none =>
            obtain ⟨event, hevent, hcloses⟩ := heffect.closed_of_absent found habsent
            exact .inr ⟨event, List.mem_append_right past hevent, hcloses⟩
      · exact .inr ⟨event, List.mem_append_left events hevent, hcloses⟩
    · obtain ⟨op, hop, _⟩ := heffect.of_called hnow
      exact .inl ⟨op, hop⟩

/-- **Run.** -/
theorem called_trace {r : Registry} {stimuli : List Stimulus} {e : Engine} {events : List Event}
    (h : Trace r stimuli e events) : Called e events := by
  induction h with
  | start =>
      exact ⟨fun _ _ hop => (by cases hop), fun _ _ _ hop => (by cases hop),
        fun _ _ hmem => (by cases hmem)⟩
  | step before s ih => exact ih.effect (effect_step _ s)

/-- A call was made before it was answered. -/
theorem Trace.called_of_answered {r : Registry} {stimuli : List Stimulus} {e : Engine}
    {events : List Event} {id : Nat} {call : Call} {answer : Answer}
    (h : Trace r stimuli e events) (hmem : .answered id call answer ∈ events) :
    .called id call ∈ events := by
  obtain ⟨past, later, rfl⟩ := List.append_of_mem hmem
  obtain ⟨first, s, rest, e₁, before, seen, tail, rfl, htrace, rfl, hstep⟩ := h.split rfl
  have hnow : .answered id call answer ∈ (e₁.step s).2 := by simp [hstep]
  obtain ⟨_, op, found, hcall⟩ := (effect_step e₁ s).of_answered hnow
  have hcalled := (called_trace htrace).awaits id op call found hcall
  simp [hcalled]

/-- **Who is in progress.**  The operations that an engine keeps are those that have
made a call and are not over. -/
theorem Trace.live_iff {r : Registry} {stimuli : List Stimulus} {e : Engine}
    {events : List Event} (h : Trace r stimuli e events) (id : Nat) :
    Live events id ↔ ∃ op, e.operations.get? id = some op := by
  have hcalled := called_trace h
  constructor
  · rintro ⟨⟨call, hmem⟩, hopen⟩
    rcases hcalled.calls id call hmem with hop | ⟨event, hevent, hcloses⟩
    · exact hop
    · exact absurd hcloses (hopen event hevent)
  · rintro ⟨op, hop⟩
    refine ⟨hcalled.waits id op hop, ?_⟩
    intro event hevent hcloses
    cases hop.symm.trans (finished_of_ended h hevent hcloses).2

/-- **Step.**  Whatever is seen is about an operation that was started. -/
theorem Owned.number_lt {e e' : Engine} {s : Stimulus} {events : List Event} {event : Event}
    {id : Nat} (h : Owned e) (heffect : Effect e s e' events) (hmem : event ∈ events)
    (hnumber : event.number? = some id) : id < e'.next := by
  have hcalled : ∀ k op, event ∈ callEvents k op → k = id := by
    intro k op hmem
    obtain ⟨call, _, rfl⟩ := mem_callEvents.mp hmem
    exact Option.some.inj hnumber
  have hanswered : ∀ k op signal, event ∈ answerEvents k op signal → k = id := by
    intro k op signal hmem
    obtain ⟨call, answer, _, _, rfl⟩ := mem_answerEvents.mp hmem
    exact Option.some.inj hnumber
  cases heffect with
  | idle unordered => cases hmem
  | started start =>
      cases hcalled _ _ hmem
      rw [next_keep]
      exact Nat.lt_succ_self _
  | refused start =>
      rw [List.mem_singleton] at hmem
      subst hmem
      cases hnumber
      exact Nat.lt_succ_self _
  | wentOn found admits resume =>
      rw [next_keep]
      rcases List.mem_append.mp hmem with hmem | hmem
      · exact hanswered _ _ _ hmem ▸ h.numbered _ _ found
      · exact hcalled _ _ hmem ▸ h.numbered _ _ found
  | ended found admits resume =>
      rcases List.mem_append.mp hmem with hmem | hmem
      · exact hanswered _ _ _ hmem ▸ h.numbered _ _ found
      · rw [List.mem_singleton] at hmem
        subst hmem
        cases hnumber
        exact h.numbered _ _ found
  | dropped found =>
      rw [List.mem_singleton] at hmem
      subst hmem
      cases hnumber
      exact h.numbered _ _ found
  | looked | heard | unheard =>
      rw [List.mem_singleton] at hmem
      subst hmem
      cases hnumber
  | unserved => cases hmem

/-- **Run.** -/
theorem Trace.number_lt {r : Registry} {stimuli : List Stimulus} {e : Engine}
    {events : List Event} {event : Event} {id : Nat} (h : Trace r stimuli e events)
    (hmem : event ∈ events) (hnumber : event.number? = some id) : id < e.next := by
  induction h with
  | start => cases hmem
  | step before s ih =>
      rcases List.mem_append.mp hmem with hpast | hnow
      · exact Nat.lt_of_lt_of_le (ih hpast) (effect_step _ s).next_le
      · exact (owned_trace before).number_lt (effect_step _ s) hnow hnumber

/-- **Step.**  Nothing more is seen of whoever is over. -/
theorem Finished.quiet_step {e e' : Engine} {s : Stimulus} {events : List Event} {id : Nat}
    (h : Finished e id) (heffect : Effect e s e' events) :
    ∀ event ∈ events, event.number? ≠ some id := by
  intro event hmem hnumber
  have hcloses : event.closes? ≠ some id := by
    intro hcloses
    rcases heffect.of_closes hmem hcloses with ⟨rfl, _⟩ | ⟨_, op, found, _⟩
    · exact Nat.lt_irrefl _ h.1
    · cases h.2.symm.trans found
  cases event with
  | called k call =>
      cases hnumber
      obtain ⟨op, hop, _⟩ := heffect.of_called hmem
      cases (h.effect heffect).2.symm.trans hop
  | answered k call answer =>
      cases hnumber
      obtain ⟨_, op, found, _⟩ := heffect.of_answered hmem
      cases h.2.symm.trans found
  | ended k outcome => exact hcloses hnumber
  | dropped k => exact hcloses hnumber
  | served k job answer => cases hnumber
  | discovered result => cases hnumber

/-- **Run.**  Nothing more is ever seen of whoever is over. -/
theorem Finished.quiet {e : Engine} {id : Nat} (h : Finished e id) (rest : List Stimulus) :
    ∀ event ∈ (e.run rest).2, event.number? ≠ some id := by
  induction rest generalizing e with
  | nil => exact fun event hmem => absurd hmem List.not_mem_nil
  | cons s more ih =>
      have heffect := effect_step e s
      intro event hmem
      rcases List.mem_append.mp hmem with hhere | hthere
      · exact h.quiet_step heffect event hhere
      · exact ih (h.effect heffect) event hthere

/-- Whoever is over makes no more calls. -/
theorem Finished.uncalled {e : Engine} {id : Nat} (h : Finished e id) (rest : List Stimulus)
    (call : Call) : .called id call ∉ (e.run rest).2 :=
  fun hmem => h.quiet rest _ hmem rfl

end Engine

end SnapshotEngine
