import Mathlib.Data.List.Induction
import SnapshotEngine.Engine
import SnapshotEngine.Proofs.Discovery.Claim
import SnapshotEngine.Proofs.Operation.Step

/-!
# What one step of the engine does

A stimulus starts an operation, has one go on or end, wakes a poller, has a
claim looked at, or comes to nothing.  What is said of the engine elsewhere is
said case by case of these.

* `effect_step` — there are no other steps;
* `Effect.operation` — where an operation in progress comes from;
* `Effect.calledBy`, `Effect.endedBy` — how calls and ends come about;
* `get?_operations_keep`, `get?_pollers_keep` — an operation that waits again;
* `run_started_goesOn`, `run_started_ends` — an operation that is started and signalled once;
* `volume?_remove`, `inFlight_remove` — an operation that is taken out;
* `Trace`, `trace_run` — a run, seen as one step after another.
-/

namespace SnapshotEngine

/-- The order that a stimulus places. -/
def Stimulus.order? : Stimulus → Option (Settings × Order)
  | .ordered settings order => some (settings, order)
  | _ => none

/-- The orders that are placed, so that an operation goes by its place among
them. -/
def ordersOf (stimuli : List Stimulus) : List (Settings × Order) :=
  stimuli.filterMap Stimulus.order?

namespace Engine

/-- What a stimulus may do. -/
inductive Effect (e : Engine) : Stimulus → Engine → List Event → Prop where
  | idle {s : Stimulus} (unordered : s.order? = none) : Effect e s e []
  | started {settings : Settings} {order : Order} {r : Registry} {op : Operation}
      (start : Operation.start e.registry settings order = .waits r op) :
      Effect e (.ordered settings order) ({ e with next := e.next + 1 }.keep e.next r op)
        (callEvents e.next op)
  | refused {settings : Settings} {order : Order} {r : Registry} {outcome : Outcome}
      (start : Operation.start e.registry settings order = .ends r outcome) :
      Effect e (.ordered settings order) { e with registry := r, next := e.next + 1 }
        [.ended e.next outcome]
  | looked {claim : Claim} :
      Effect e (.reported claim) { e with registry := (discover e.registry claim).2 }
        [.discovered (discover e.registry claim).1]
  | wentOn {id : Nat} {signal : Signal} {op next : Operation} {r : Registry}
      (found : e.operations.get? id = some op) (admits : e.admits id signal)
      (resume : op.resume e.registry signal = some (.waits r next)) :
      Effect e (.signalled id signal) (e.keep id r next)
        (answerEvents id op signal ++ callEvents id next)
  | ended {id : Nat} {signal : Signal} {op : Operation} {r : Registry} {outcome : Outcome}
      (found : e.operations.get? id = some op) (admits : e.admits id signal)
      (resume : op.resume e.registry signal = some (.ends r outcome)) :
      Effect e (.signalled id signal) ({ e with registry := r }.remove id op)
        (answerEvents id op signal ++ [.ended id outcome])
  | dropped {id : Nat} {op : Operation} (found : e.operations.get? id = some op) :
      Effect e (.dropped id) (e.remove id op) [.dropped id]
  /-- A poller hears a status, and it is noted. -/
  | heard {id : Nat} {p : Poller} {status : JobStatus} (found : e.pollers.get? id = some p)
      (asking : p.stage = .asking) (live : p.cancelled = false) :
      Effect e (.woken id (.answered (.ok status)))
        { e with
          registry := e.registry.record p.job status
          pollers := e.pollers.insert id (p.advance (.answered (.ok status))) }
        [.served id p.job (.ok status)]
  /-- A poller is told that there is no answer. -/
  | unheard {id : Nat} {p : Poller} {cause : ControlPlaneError}
      (found : e.pollers.get? id = some p) (asking : p.stage = .asking)
      (live : p.cancelled = false) :
      Effect e (.woken id (.answered (.error cause)))
        { e with pollers := e.pollers.insert id (p.advance (.answered (.error cause))) }
        [.served id p.job (.error cause)]
  /-- A poller is woken by something else, or does not listen any more. -/
  | unserved {id : Nat} {p : Poller} {signal : PollerSignal} (found : e.pollers.get? id = some p) :
      Effect e (.woken id signal) { e with pollers := e.pollers.insert id (p.advance signal) } []

/-- Waking a poller has it hear something, or has nothing served to it. -/
theorem effect_wake (e : Engine) (id : Nat) (signal : PollerSignal) :
    Effect e (.woken id signal) (e.wake id signal).1 (e.wake id signal).2 := by
  unfold wake
  cases hfound : e.pollers.get? id with
  | none => exact .idle rfl
  | some p =>
      by_cases hlistens : p.stage = .asking ∧ p.cancelled = false
      · cases signal with
        | crashed => exact .unserved hfound
        | woken => exact .unserved hfound
        | answered answer =>
            have hserved : p.served? (.answered answer) = some answer := if_pos hlistens
            cases answer with
            | ok status =>
                simp only [Poller.noted?, hserved]
                exact .heard hfound hlistens.1 hlistens.2
            | error cause =>
                simp only [Poller.noted?, hserved]
                exact .unheard hfound hlistens.1 hlistens.2
      · have hserved : p.served? signal = none := by
          cases signal with
          | answered answer => exact if_neg hlistens
          | _ => rfl
        simp only [Poller.noted?, hserved]
        exact .unserved hfound

/-- **Every step.**  What a stimulus does is one of its effects. -/
theorem effect_step (e : Engine) (s : Stimulus) : Effect e s (e.step s).1 (e.step s).2 := by
  cases s with
  | ordered settings order =>
      simp only [step, Engine.order]
      cases hstart : Operation.start e.registry settings order with
      | waits r op => exact .started hstart
      | ends r outcome => exact .refused hstart
  | reported claim => exact .looked
  | woken id signal => exact effect_wake e id signal
  | signalled id signal =>
      simp only [step, Engine.signal]
      cases hfound : e.operations.get? id with
      | none => exact .idle rfl
      | some op =>
          cases hadmits : e.admits id signal with
          | false => exact .idle rfl
          | true =>
              simp only [if_true]
              cases hresume : op.resume e.registry signal with
              | none => exact .idle rfl
              | some p =>
                  cases p with
                  | waits r next => exact .wentOn hfound hadmits hresume
                  | ends r outcome => exact .ended hfound hadmits hresume
  | dropped id =>
      simp only [step, drop]
      cases hfound : e.operations.get? id with
      | none => exact .idle rfl
      | some op => exact .dropped hfound

/-! ## What is seen of a step -/

theorem mem_callEvents {id : Nat} {op : Operation} {event : Event} :
    event ∈ callEvents id op ↔ ∃ call, op.call? = some call ∧ event = .called id call := by
  unfold callEvents
  cases op.call? <;> simp

theorem mem_answerEvents {id : Nat} {op : Operation} {signal : Signal} {event : Event} :
    event ∈ answerEvents id op signal ↔
      ∃ call answer, op.call? = some call ∧ signal = .answered answer ∧
        event = .answered id call answer := by
  unfold answerEvents
  cases signal <;> cases op.call? <;> simp

/-- Nothing but calls is seen of the calls of an operation. -/
theorem not_mem_callEvents {id : Nat} {op : Operation} {event : Event}
    (h : ∀ call, event ≠ .called id call) : event ∉ callEvents id op := by
  intro hmem
  obtain ⟨call, _, heq⟩ := mem_callEvents.mp hmem
  exact h call heq

/-- Nothing but answers is seen of the answers to an operation. -/
theorem not_mem_answerEvents {id : Nat} {op : Operation} {signal : Signal} {event : Event}
    (h : ∀ call answer, event ≠ .answered id call answer) : event ∉ answerEvents id op signal := by
  intro hmem
  obtain ⟨call, answer, _, _, heq⟩ := mem_answerEvents.mp hmem
  exact h call answer heq

/-- How a call comes about: an operation makes it as it starts, or as it goes on. -/
inductive CalledBy (e : Engine) (id : Nat) (call : Call) : Stimulus → Engine → Prop where
  | started {settings : Settings} {order : Order} {r : Registry} {op : Operation}
      (number : id = e.next) (start : Operation.start e.registry settings order = .waits r op)
      (waits : op.call? = some call) :
      CalledBy e id call (.ordered settings order) ({ e with next := e.next + 1 }.keep id r op)
  | wentOn {signal : Signal} {op next : Operation} {r : Registry}
      (found : e.operations.get? id = some op)
      (resume : op.resume e.registry signal = some (.waits r next))
      (waits : next.call? = some call) :
      CalledBy e id call (.signalled id signal) (e.keep id r next)

theorem Effect.calledBy {e e' : Engine} {s : Stimulus} {events : List Event} {id : Nat}
    {call : Call} (h : Effect e s e' events) (hmem : .called id call ∈ events) :
    CalledBy e id call s e' := by
  cases h with
  | started start =>
      obtain ⟨_, hcall, heq⟩ := mem_callEvents.mp hmem
      cases heq
      exact .started rfl start hcall
  | wentOn found admits resume =>
      rcases List.mem_append.mp hmem with hmem | hmem
      · exact absurd hmem (not_mem_answerEvents fun _ _ heq => by cases heq)
      obtain ⟨_, hcall, heq⟩ := mem_callEvents.mp hmem
      cases heq
      exact .wentOn found resume hcall
  | ended found admits resume =>
      rcases List.mem_append.mp hmem with hmem | hmem
      · exact absurd hmem (not_mem_answerEvents fun _ _ heq => by cases heq)
      · simp at hmem
  | _ => simp at hmem

/-- How an end comes about: an operation is refused as it is ordered, or ends with a signal
that it has waited for. -/
inductive EndedBy (e : Engine) (id : Nat) (outcome : Outcome) : Stimulus → List Event → Prop where
  | refused {settings : Settings} {order : Order} {r : Registry} (number : id = e.next)
      (start : Operation.start e.registry settings order = .ends r outcome) :
      EndedBy e id outcome (.ordered settings order) [.ended id outcome]
  | ended {signal : Signal} {op : Operation} {r : Registry}
      (found : e.operations.get? id = some op) (admits : e.admits id signal)
      (resume : op.resume e.registry signal = some (.ends r outcome)) :
      EndedBy e id outcome (.signalled id signal)
        (answerEvents id op signal ++ [.ended id outcome])

theorem Effect.endedBy {e e' : Engine} {s : Stimulus} {events : List Event} {id : Nat}
    {outcome : Outcome} (h : Effect e s e' events) (hmem : .ended id outcome ∈ events) :
    EndedBy e id outcome s events := by
  cases h with
  | started start => exact absurd hmem (not_mem_callEvents fun _ heq => by cases heq)
  | refused start =>
      rw [List.mem_singleton] at hmem
      cases hmem
      exact .refused rfl start
  | wentOn found admits resume =>
      rcases List.mem_append.mp hmem with hmem | hmem
      · exact absurd hmem (not_mem_answerEvents fun _ _ heq => by cases heq)
      · exact absurd hmem (not_mem_callEvents fun _ heq => by cases heq)
  | ended found admits resume =>
      rcases List.mem_append.mp hmem with hmem | hmem
      · exact absurd hmem (not_mem_answerEvents fun _ _ heq => by cases heq)
      rw [List.mem_singleton] at hmem
      cases hmem
      exact .ended found admits resume
  | _ => simp at hmem

/-- An answer is served to a poller that has asked and was not cancelled. -/
theorem Effect.of_served {e e' : Engine} {s : Stimulus} {events : List Event} {id : Nat}
    {job : JobHandle} {answer : Except ControlPlaneError JobStatus} (h : Effect e s e' events)
    (hmem : .served id job answer ∈ events) :
    s = .woken id (.answered answer) ∧
      ∃ p, e.pollers.get? id = some p ∧ p.job = job ∧ p.stage = .asking ∧
        p.cancelled = false := by
  cases h with
  | started start =>
      exact absurd hmem (not_mem_callEvents fun _ heq => by cases heq)
  | wentOn found admits resume =>
      rcases List.mem_append.mp hmem with hmem | hmem
      · exact absurd hmem (not_mem_answerEvents fun _ _ heq => by cases heq)
      · exact absurd hmem (not_mem_callEvents fun _ heq => by cases heq)
  | ended found admits resume =>
      rcases List.mem_append.mp hmem with hmem | hmem
      · exact absurd hmem (not_mem_answerEvents fun _ _ heq => by cases heq)
      · simp at hmem
  | heard found asking live =>
      simp only [List.mem_singleton, Event.served.injEq] at hmem
      obtain ⟨rfl, rfl, rfl⟩ := hmem
      exact ⟨rfl, _, found, rfl, asking, live⟩
  | unheard found asking live =>
      simp only [List.mem_singleton, Event.served.injEq] at hmem
      obtain ⟨rfl, rfl, rfl⟩ := hmem
      exact ⟨rfl, _, found, rfl, asking, live⟩
  | _ => simp at hmem

/-- An answer reaches an operation that waits for it. -/
theorem Effect.of_answered {e e' : Engine} {s : Stimulus} {events : List Event} {id : Nat}
    {call : Call} {answer : Answer} (h : Effect e s e' events)
    (hmem : .answered id call answer ∈ events) :
    s = .signalled id (.answered answer) ∧
      ∃ op, e.operations.get? id = some op ∧ op.call? = some call := by
  have hanswer : ∀ (k : Nat) (op : Operation) (signal : Signal),
      e.operations.get? k = some op → .answered id call answer ∈ answerEvents k op signal →
        Stimulus.signalled k signal = .signalled id (.answered answer) ∧
          ∃ op, e.operations.get? id = some op ∧ op.call? = some call := by
    intro k op signal found hmem
    obtain ⟨_, _, hcall, rfl, heq⟩ := mem_answerEvents.mp hmem
    cases heq
    exact ⟨rfl, op, found, hcall⟩
  cases h with
  | started start =>
      exact absurd hmem (not_mem_callEvents fun _ heq => by cases heq)
  | wentOn found admits resume =>
      rcases List.mem_append.mp hmem with hmem | hmem
      · exact hanswer _ _ _ found hmem
      · exact absurd hmem (not_mem_callEvents fun _ heq => by cases heq)
  | ended found admits resume =>
      rcases List.mem_append.mp hmem with hmem | hmem
      · exact hanswer _ _ _ found hmem
      · simp at hmem
  | _ => simp at hmem

/-- What an answer does to the operation that waits for it, and what is seen of
it. -/
theorem step_answered {e : Engine} {id : Nat} {op : Operation} {call : Call} {answer : Answer}
    {p : Progress Operation} (found : e.operations.get? id = some op)
    (waited : op.call? = some call)
    (resume : op.resume e.registry (.answered answer) = some p) :
    .answered id call answer ∈ (e.step (.signalled id (.answered answer))).2 ∧
      ∀ r outcome, p = .ends r outcome →
        (e.step (.signalled id (.answered answer))).1 = { e with registry := r }.remove id op := by
  cases p with
  | waits r next => simp [step, signal, found, admits, resume, answerEvents, waited]
  | ends r outcome => simp [step, signal, found, admits, resume, answerEvents, waited]

/-- An operation that starts to wait takes the next number. -/
theorem step_starts {e : Engine} {settings : Settings} {order : Order} {r : Registry}
    {op : Operation} (start : Operation.start e.registry settings order = .waits r op) :
    e.step (.ordered settings order) =
      ({ e with next := e.next + 1 }.keep e.next r op, callEvents e.next op) := by
  simp [step, Engine.order, start]

/-- A signal has the operation that it is for go on. -/
theorem step_goesOn {e : Engine} {id : Nat} {op next : Operation} {signal : Signal} {r : Registry}
    (found : e.operations.get? id = some op) (admits : e.admits id signal)
    (resume : op.resume e.registry signal = some (.waits r next)) :
    e.step (.signalled id signal) =
      (e.keep id r next, answerEvents id op signal ++ callEvents id next) := by
  simp [step, Engine.signal, found, admits, resume]

/-- A signal has the operation that it is for end. -/
theorem step_ends {e : Engine} {id : Nat} {op : Operation} {signal : Signal} {r : Registry}
    {outcome : Outcome} (found : e.operations.get? id = some op) (admits : e.admits id signal)
    (resume : op.resume e.registry signal = some (.ends r outcome)) :
    e.step (.signalled id signal) =
      ({ e with registry := r }.remove id op,
        answerEvents id op signal ++ [.ended id outcome]) := by
  simp [step, Engine.signal, found, admits, resume]

/-! ## Keeping an operation -/

@[simp] theorem registry_keep (e : Engine) (id : Nat) (r : Registry) (op : Operation) :
    (e.keep id r op).registry = r := by
  unfold keep tendPoller
  split
  · rfl
  · split <;> rfl

@[simp] theorem next_keep (e : Engine) (id : Nat) (r : Registry) (op : Operation) :
    (e.keep id r op).next = e.next := by
  unfold keep tendPoller
  split
  · rfl
  · split <;> rfl

/-- An operation that waits again is found under its number. -/
theorem get?_operations_keep (e : Engine) (id : Nat) (r : Registry) (op : Operation) (k : Nat) :
    (e.keep id r op).operations.get? k = if id = k then some op else e.operations.get? k := by
  have hoperations : (e.keep id r op).operations = e.operations.insert id op := by
    unfold keep tendPoller
    split
    · rfl
    · split <;> rfl
  rw [hoperations, Table.get?_insert]

/-- It is then found under its number. -/
theorem get?_operations_keep_self (e : Engine) (id : Nat) (r : Registry) (op : Operation) :
    (e.keep id r op).operations.get? id = some op := by
  rw [get?_operations_keep, if_pos rfl]

/-- What is seen of an operation that starts and goes on with its first answer. -/
theorem run_started_goesOn {e : Engine} {settings : Settings} {order : Order}
    {op next : Operation} {answer : Answer} {r r' : Registry}
    (start : Operation.start e.registry settings order = .waits r op)
    (resume : op.resume r (.answered answer) = some (.waits r' next)) :
    (e.run [.ordered settings order, .signalled e.next (.answered answer)]).2 =
      callEvents e.next op ++
        (answerEvents e.next op (.answered answer) ++ callEvents e.next next) := by
  have hkept := get?_operations_keep_self { e with next := e.next + 1 } e.next r op
  rw [run, run, step_starts start, step_goesOn hkept rfl (by rw [registry_keep]; exact resume)]
  simp [run]

/-- What is seen of one that starts and ends with its first answer. -/
theorem run_started_ends {e : Engine} {settings : Settings} {order : Order} {op : Operation}
    {answer : Answer} {r r' : Registry} {outcome : Outcome}
    (start : Operation.start e.registry settings order = .waits r op)
    (resume : op.resume r (.answered answer) = some (.ends r' outcome)) :
    (e.run [.ordered settings order, .signalled e.next (.answered answer)]).2 =
      callEvents e.next op ++
        (answerEvents e.next op (.answered answer) ++ [.ended e.next outcome]) := by
  have hkept := get?_operations_keep_self { e with next := e.next + 1 } e.next r op
  rw [run, run, step_starts start, step_ends hkept rfl (by rw [registry_keep]; exact resume)]
  simp [run]

/-- A poller starts with a transfer and is cancelled when it is not followed any
longer. -/
theorem get?_pollers_keep (e : Engine) (id : Nat) (r : Registry) (op : Operation) :
    (e.keep id r op).pollers.get? id =
      match op.confirmation?.map fun c => (c.job, c.stage) with
      | some (job, .transferring) => some (.start job op.settings.pollInterval)
      | some (_, .joining) => (e.pollers.get? id).map .cancel
      | _ => e.pollers.get? id := by
  unfold keep tendPoller
  cases hc : op.confirmation? with
  | none => rfl
  | some c =>
      obtain ⟨job, action, object, stage⟩ := c
      cases stage with
      | transferring => simp [Table.get?_insert]
      | settling => rfl
      | joining => simp [cancelPoller, Table.get?_modify]

/-- Nothing happens to the pollers of other operations. -/
theorem get?_pollers_keep_other {e : Engine} {id k : Nat} (h : id ≠ k) (r : Registry)
    (op : Operation) : (e.keep id r op).pollers.get? k = e.pollers.get? k := by
  unfold keep tendPoller
  split
  · rfl
  · split
    · exact (Table.get?_insert ..).trans (if_neg h)
    · rfl
    · exact (Table.get?_modify ..).trans (if_neg h)

/-! ## Taking an operation out -/

@[simp] theorem volume?_remove (e : Engine) (id : Nat) (op : Operation) (name : String) :
    (e.remove id op).registry.volume? name = e.registry.volume? name := by
  unfold remove
  cases op.marker? <;> rfl

@[simp] theorem snapshots_remove (e : Engine) (id : Nat) (op : Operation) :
    (e.remove id op).registry.snapshots = e.registry.snapshots := by
  unfold remove
  cases op.marker? <;> rfl

/-- The marker of an operation that is taken out is free again. -/
theorem inFlight_remove (e : Engine) (id : Nat) (op : Operation) (name : String) :
    (e.remove id op).registry.inFlight name ↔
      op.marker? ≠ some name ∧ e.registry.inFlight name := by
  unfold remove
  cases hmarker : op.marker? with
  | none => simp [cancelPoller]
  | some held =>
      refine (Registry.inFlight_release e.registry held name).trans (and_congr_left' ?_)
      rw [Ne, Ne, Option.some.injEq, eq_comm]

theorem get?_operations_remove (e : Engine) (id : Nat) (op : Operation) (k : Nat) :
    (e.remove id op).operations.get? k = if id = k then none else e.operations.get? k :=
  Table.get?_erase ..

/-- The poller of an operation that is taken out is cancelled. -/
theorem get?_pollers_remove (e : Engine) (id : Nat) (op : Operation) (k : Nat) :
    (e.remove id op).pollers.get? k =
      if id = k then (e.pollers.get? k).map .cancel else e.pollers.get? k :=
  Table.get?_modify ..

/-! ## Where an operation comes from -/

/-- Where an operation that is in progress after a step comes from. -/
inductive OperationEffect (e e' : Engine) (k : Nat) :
    Stimulus → List Event → Operation → Prop where
  | started {settings : Settings} {order : Order} {r : Registry} {op : Operation}
      (number : k = e.next) (registry : e'.registry = r)
      (start : Operation.start e.registry settings order = .waits r op) :
      OperationEffect e e' k (.ordered settings order) (callEvents k op) op
  | wentOn {op next : Operation} {signal : Signal} {r : Registry}
      (found : e.operations.get? k = some op) (registry : e'.registry = r)
      (resume : op.resume e.registry signal = some (.waits r next)) :
      OperationEffect e e' k (.signalled k signal)
        (answerEvents k op signal ++ callEvents k next) next
  | kept {s : Stimulus} {events : List Event} {op : Operation}
      (found : e.operations.get? k = some op)
      (unanswered : ∀ call answer, .answered k call answer ∉ events) :
      OperationEffect e e' k s events op

/-- An operation was started just now, has gone on, or was there before and has
heard nothing. -/
theorem Effect.operation {e e' : Engine} {s : Stimulus} {events : List Event} {k : Nat}
    {op : Operation} (h : Effect e s e' events) (hop : e'.operations.get? k = some op) :
    OperationEffect e e' k s events op := by
  have hother : (∀ signal, s ≠ .signalled k signal) →
      ∀ call answer, .answered k call answer ∉ events :=
    fun hne call answer hmem => hne _ (h.of_answered hmem).1
  cases h with
  | idle unordered => exact .kept hop fun _ _ => List.not_mem_nil
  | started start =>
      rw [get?_operations_keep] at hop
      split at hop
      · rename_i heq
        subst heq
        cases hop
        exact .started rfl (registry_keep ..) start
      · exact .kept hop (hother fun _ heq => by cases heq)
  | wentOn found admits resume =>
      rw [get?_operations_keep] at hop
      split at hop
      · rename_i heq
        subst heq
        cases hop
        exact .wentOn found (registry_keep ..) resume
      · rename_i hne
        exact .kept hop (hother fun _ heq => by cases heq; exact hne rfl)
  | ended found admits resume =>
      rw [get?_operations_remove] at hop
      split at hop
      · cases hop
      · rename_i hne
        exact .kept hop (hother fun _ heq => by cases heq; exact hne rfl)
  | dropped found =>
      rw [get?_operations_remove] at hop
      split at hop
      · cases hop
      · exact .kept hop (hother fun _ heq => by cases heq)
  | _ => exact .kept hop (hother fun _ heq => by cases heq)

/-- Numbers are not given back. -/
theorem Effect.next_le {e e' : Engine} {s : Stimulus} {events : List Event}
    (h : Effect e s e' events) : e.next ≤ e'.next := by
  cases h with
  | started start =>
      rw [next_keep]
      exact Nat.le_succ _
  | refused start => exact Nat.le_succ _
  | wentOn found admits resume => exact Nat.le_of_eq (next_keep _ _ _ _).symm
  | _ => exact Nat.le_refl _

/-! ## Runs -/

/-- A run from a registry, seen as one step after another. -/
inductive Trace (r : Registry) : List Stimulus → Engine → List Event → Prop where
  | start : Trace r [] (ofRegistry r) []
  | step {stimuli : List Stimulus} {e : Engine} {events : List Event}
      (before : Trace r stimuli e events) (s : Stimulus) :
      Trace r (stimuli ++ [s]) (e.step s).1 (events ++ (e.step s).2)

/-- The last step of a run follows what came before. -/
theorem run_concat (e : Engine) (stimuli : List Stimulus) (s : Stimulus) :
    e.run (stimuli ++ [s]) =
      (((e.run stimuli).1.step s).1, (e.run stimuli).2 ++ ((e.run stimuli).1.step s).2) := by
  rw [run_append]
  simp [run]

/-- Every run is one step after another. -/
theorem trace_run (r : Registry) (stimuli : List Stimulus) :
    Trace r stimuli ((ofRegistry r).run stimuli).1 ((ofRegistry r).run stimuli).2 := by
  induction stimuli using List.reverseRecOn with
  | nil => exact .start
  | append_singleton stimuli s ih =>
      rw [run_concat]
      exact ih.step s

/-- An event of a run was seen in one of its steps. -/
theorem Trace.split {r : Registry} {stimuli : List Stimulus} {e : Engine}
    {events past later : List Event} {event : Event} (h : Trace r stimuli e events)
    (heq : events = past ++ event :: later) :
    ∃ first s rest e₁ before seen tail, stimuli = first ++ s :: rest ∧
      Trace r first e₁ before ∧ past = before ++ seen ∧
      (e₁.step s).2 = seen ++ event :: tail := by
  induction h generalizing later with
  | start => simp at heq
  | step before s ih =>
      rename_i stimuli e events
      rcases List.append_eq_append_iff.mp heq with ⟨seen, hpast, hnow⟩ | ⟨more, hevents, hmore⟩
      · exact ⟨stimuli, s, [], e, events, seen, later, rfl, before, hpast, hnow⟩
      · cases more with
        | nil =>
            rw [List.append_nil] at hevents
            exact ⟨stimuli, s, [], e, events, [], later, rfl, before, by simp [hevents], hmore.symm⟩
        | cons seen more =>
            cases hmore
            obtain ⟨first, s₁, rest, e₁, past₁, seen, tail, hstimuli, htrace, hpast, hstep⟩ :=
              ih hevents
            refine ⟨first, s₁, rest ++ [s], e₁, past₁, seen, tail, ?_, htrace, hpast, hstep⟩
            rw [hstimuli, List.append_assoc, List.cons_append]

/-- An operation ends as it is started, or with a signal that it has waited
for. -/
theorem Effect.of_ended {e e' : Engine} {s : Stimulus} {events seen tail : List Event} {id : Nat}
    {outcome : Outcome} (h : Effect e s e' events)
    (heq : events = seen ++ .ended id outcome :: tail) :
    (id = e.next ∧ ∃ cause, outcome = .error cause ∧ cause.phase = .validation) ∨
      ∃ op signal r, e.operations.get? id = some op ∧
        op.resume e.registry signal = some (.ends r outcome) ∧ e.admits id signal ∧
        seen = answerEvents id op signal := by
  have hmem : Event.ended id outcome ∈ events := by simp [heq]
  cases h.endedBy hmem with
  | refused number start => exact .inl ⟨number, (Operation.start_ends start).2⟩
  | ended found admits resume =>
      rename_i signal op r
      right
      rcases List.append_eq_append_iff.mp heq with ⟨more, hseen, hend⟩ | ⟨more, hanswers, hend⟩
      · cases more with
        | nil =>
            cases hend
            exact ⟨_, _, _, found, resume, admits, by simpa using hseen⟩
        | cons _ more => simp at hend
      · cases more with
        | nil =>
            cases hend
            exact ⟨_, _, _, found, resume, admits, by simpa using hanswers.symm⟩
        | cons event more =>
            cases hend
            have hanswered : Event.ended id outcome ∈ answerEvents id op signal := by
              rw [hanswers]
              simp
            exact absurd hanswered (not_mem_answerEvents fun _ _ heq => by cases heq)

end Engine

end SnapshotEngine
