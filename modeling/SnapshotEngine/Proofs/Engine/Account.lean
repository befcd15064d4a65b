import SnapshotEngine.Proofs.Engine.History
import SnapshotEngine.Proofs.Engine.InFlight
import SnapshotEngine.Proofs.Operation.Account

/-!
# The account of an operation

Of every operation in progress the events show just the calls that its stage stands for,
and of every operation that has ended those of the way it ended: nothing is seen of it
afterwards.  Its own steps reach the snapshots only if it ends well, and the rest of the
registry only if it has called for something first.

* `answeredOf` — the calls of an operation that were answered;
* `Recorded`, `recorded_trace` — operations in progress;
* `ended_once`, `account_of_ended` — operations that have ended;
* `unserved_of_unmoved` — who moves nothing has no poller that is told anything;
* `HasEngaged`, `Effect.registry_of_own` — who may reach the registry;
* `LeavesAlone`, `snapshots_left_alone`, `registry_left_alone` — what an operation does to
  the registry.
-/

namespace SnapshotEngine

/-- The call of an operation that an event shows answered. -/
def Event.answeredTo? (id : Nat) : Event → Option Answered
  | .answered other call answer => if other = id then some (call, answer) else none
  | _ => none

/-- The calls of an operation that were answered, one after another. -/
def answeredOf (id : Nat) (events : List Event) : List Answered :=
  events.filterMap (Event.answeredTo? id)

theorem answeredOf_append (id : Nat) (past later : List Event) :
    answeredOf id (past ++ later) = answeredOf id past ++ answeredOf id later :=
  List.filterMap_append

/-- Events about others show nothing of an operation. -/
theorem calls_answered_eq_nil {id : Nat} {events : List Event}
    (h : ∀ event ∈ events, event.number? ≠ some id) :
    callsOf id events = [] ∧ answeredOf id events = [] := by
  refine ⟨(history_eq_nil h).1, List.filterMap_eq_nil_iff.mpr ?_⟩
  intro event hmem
  cases event with
  | answered other call answer => exact if_neg fun heq => h _ hmem (congrArg some heq)
  | _ => rfl

namespace Engine

@[simp] theorem calls_answered_callEvents (id : Nat) (op : Operation) :
    callsOf id (callEvents id op) = op.call?.toList ∧ answeredOf id (callEvents id op) = [] := by
  unfold callEvents
  cases op.call? <;> simp [callsOf, answeredOf, Event.calledBy?, Event.answeredTo?]

@[simp] theorem calls_answered_answerEvents (id : Nat) (op : Operation) (signal : Signal) :
    callsOf id (answerEvents id op signal) = [] ∧
      answeredOf id (answerEvents id op signal) = signal.completes op.call? := by
  unfold answerEvents
  cases signal <;> cases op.call? <;>
    simp [callsOf, answeredOf, Event.calledBy?, Event.answeredTo?, Signal.completes]

/-! ## Operations in progress -/

/-- What was answered to an operation in progress is what its stage stands for, and it has
called for that and for what it waits for. -/
def Recorded (orders : List (Settings × Order)) (e : Engine) (events : List Event) : Prop :=
  ∀ id op, e.operations.get? id = some op →
    ∃ settings order, orders[id]? = some (settings, order) ∧ op.Serves settings order ∧
      op.CameBy settings order (answeredOf id events) ∧
      callsOf id events = (answeredOf id events).map Prod.fst ++ op.call?.toList

/-- **Step.** -/
theorem Recorded.effect {orders : List (Settings × Order)} {e e' : Engine} {s : Stimulus}
    {past events : List Event} (h : Recorded orders e past) (hown : Owned e)
    (placed : e.next = orders.length) (hnew : ∀ event ∈ past, event.number? ≠ some e.next)
    (heffect : Effect e s e' events) :
    Recorded (orders ++ s.order?.toList) e' (past ++ events) := by
  intro k op hop
  have hstays : e.operations.get? k = some op →
      (callsOf k events = [] ∧ answeredOf k events = []) →
        ∃ settings order, (orders ++ s.order?.toList)[k]? = some (settings, order) ∧
          op.Serves settings order ∧ op.CameBy settings order (answeredOf k (past ++ events)) ∧
          callsOf k (past ++ events) =
            (answeredOf k (past ++ events)).map Prod.fst ++ op.call?.toList := by
    rintro found ⟨hcalls, hanswered⟩
    obtain ⟨settings, order, horder, hserves, hcame, hmade⟩ := h k op found
    have hk := (List.getElem?_eq_some_iff.mp horder).1
    refine ⟨settings, order, (List.getElem?_append_left hk).trans horder, hserves, ?_⟩
    rw [callsOf_append, answeredOf_append, hcalls, hanswered, List.append_nil, List.append_nil]
    exact ⟨hcame, hmade⟩
  by_cases hk : e.subject? s = some k
  · cases heffect with
    | idle unordered => exact hstays hop ⟨rfl, rfl⟩
    | started start =>
        rename_i settings order r op'
        cases hk
        rw [get?_operations_keep, if_pos rfl] at hop
        cases hop
        obtain ⟨hcalls, hanswered⟩ := calls_answered_eq_nil hnew
        obtain ⟨hmade, hnone⟩ := calls_answered_callEvents e.next op
        refine ⟨settings, order, ?_, (Operation.start_waits start).1, ?_⟩
        · rw [placed]
          simp [Stimulus.order?]
        · rw [callsOf_append, answeredOf_append, hcalls, hanswered, hmade, hnone]
          exact ⟨Operation.came_of_start start, rfl⟩
    | refused start =>
        cases hk
        cases hown.absent_next.1.symm.trans hop
    | wentOn found admits resume =>
        rename_i id signal op₀ r op'
        cases hk
        rw [get?_operations_keep, if_pos rfl] at hop
        cases hop
        obtain ⟨settings, order, horder, hserves, hcame, hmade⟩ := h k op₀ found
        obtain ⟨hcalls, hanswered⟩ := calls_answered_answerEvents k op₀ signal
        obtain ⟨hnext, hnone⟩ := calls_answered_callEvents k op
        obtain ⟨hafter, hcompletes⟩ := hcame.goesOn hserves resume
        have hid := (List.getElem?_eq_some_iff.mp horder).1
        refine ⟨settings, order, (List.getElem?_append_left hid).trans horder,
          Operation.serves_of_resume resume hserves, ?_⟩
        rw [callsOf_append, callsOf_append, answeredOf_append, answeredOf_append, hcalls,
          hanswered, hnext, hnone, hmade, List.append_nil, List.map_append, hcompletes]
        exact ⟨hafter, rfl⟩
    | ended found admits resume =>
        cases hk
        rw [get?_operations_remove, if_pos rfl] at hop
        cases hop
    | dropped found =>
        cases hk
        rw [get?_operations_remove, if_pos rfl] at hop
        cases hop
    | looked | heard | unheard | unserved => cases hk
  · obtain ⟨hsame, hsilent⟩ := heffect.bystander hk
    exact hstays (hsame ▸ hop) (calls_answered_eq_nil hsilent)

/-- **Run.** -/
theorem recorded_trace {r : Registry} {stimuli : List Stimulus} {e : Engine}
    {events : List Event} (h : Trace r stimuli e events) :
    Recorded (ordersOf stimuli) e events := by
  induction h with
  | start => exact fun id op hop => by cases hop
  | step before s ih =>
      rw [ordersOf_concat]
      refine ih.effect (owned_trace before) (serving_trace before).placed ?_ (effect_step _ s)
      intro event hmem hnumber
      exact Nat.lt_irrefl _ (before.number_lt hmem hnumber)

/-- Whoever holds a marker has made a call that says so. -/
theorem Recorded.engaged {orders : List (Settings × Order)} {e : Engine} {events : List Event}
    {id : Nat} {op : Operation} {name : String} (h : Recorded orders e events)
    (found : e.operations.get? id = some op) (hmarker : op.marker? = some name) :
    ∃ call ∈ callsOf id events, call.engages := by
  obtain ⟨settings, order, _, _, hcame, hmade⟩ := h id op found
  rw [hmade]
  exact hcame.engaged hmarker

/-- Whoever has a poller has called for its transfer. -/
theorem Recorded.moved {orders : List (Settings × Order)} {e : Engine} {events : List Event}
    {id : Nat} {op : Operation} {p : Poller} (h : Recorded orders e events) (hown : Owned e)
    (found : e.operations.get? id = some op) (hp : e.pollers.get? id = some p) :
    ∃ action object, .move action object ∈ callsOf id events ∧
      (Call.move action object).engages := by
  obtain ⟨c, hc, _⟩ := hown.asks id p op hp found
  obtain ⟨settings, order, _, _, hcame, hmade⟩ := h id op found
  rw [hmade]
  exact ⟨c.action, c.object, hcame.moved hc⟩

/-! ## Operations that have ended -/

/-- A run, seen from one of its steps. -/
theorem run_split (e : Engine) (first : List Stimulus) (s : Stimulus) (rest : List Stimulus) :
    (e.run (first ++ s :: rest)).2 =
      (e.run first).2 ++
        (((e.run first).1.step s).2 ++ (((e.run first).1.step s).1.run rest).2) := by
  rw [run_append]
  rfl

/-- What is seen of a run is seen in one of its steps. -/
theorem exists_step_of_mem {e : Engine} {stimuli : List Stimulus} {event : Event}
    (h : event ∈ (e.run stimuli).2) :
    ∃ first s rest, stimuli = first ++ s :: rest ∧ event ∈ ((e.run first).1.step s).2 := by
  induction stimuli generalizing e with
  | nil => cases h
  | cons s more ih =>
      rcases List.mem_append.mp h with hhere | hthere
      · exact ⟨[], s, more, rfl, hhere⟩
      · obtain ⟨first, s', rest, rfl, hmem⟩ := ih hthere
        exact ⟨s :: first, s', rest, rfl, hmem⟩

theorem mem_run_of_step {e : Engine} {stimuli first rest : List Stimulus} {s : Stimulus}
    {event : Event} (hsplit : stimuli = first ++ s :: rest)
    (h : event ∈ ((e.run first).1.step s).2) : event ∈ (e.run stimuli).2 := by
  rw [hsplit, run_split]
  exact List.mem_append_right _ (List.mem_append_left _ h)

/-- **Step.**  An operation ends once in a step. -/
theorem Effect.ended_once {e e' : Engine} {s : Stimulus} {events : List Event} {id : Nat}
    {outcome outcome' : Outcome} (h : Effect e s e' events) (hmem : .ended id outcome ∈ events)
    (hmem' : .ended id outcome' ∈ events) : outcome = outcome' := by
  cases h.endedBy hmem with
  | refused number start =>
      rw [List.mem_singleton] at hmem'
      cases hmem'
      rfl
  | ended found admits resume =>
      rcases List.mem_append.mp hmem' with hanswered | hlast
      · exact absurd hanswered (not_mem_answerEvents fun _ _ heq => by cases heq)
      · rw [List.mem_singleton] at hlast
        cases hlast
        rfl

/-- **Run.**  An operation ends once. -/
theorem ended_once {r : Registry} {stimuli : List Stimulus} {e : Engine} {events : List Event}
    {id : Nat} {outcome outcome' : Outcome} (h : Trace r stimuli e events)
    (hmem : .ended id outcome ∈ events) (hmem' : .ended id outcome' ∈ events) :
    outcome = outcome' := by
  induction h with
  | start => cases hmem
  | step before s ih =>
      rename_i stimuli e events
      have hover : ∀ outcome outcome', Event.ended id outcome ∈ events →
          Event.ended id outcome' ∉ (e.step s).2 := by
        intro outcome outcome' hpast hnow
        exact (finished_of_ended before hpast rfl).quiet_step (effect_step e s) _ hnow rfl
      rcases List.mem_append.mp hmem with hpast | hnow <;>
        rcases List.mem_append.mp hmem' with hpast' | hnow'
      · exact ih hpast hpast'
      · exact (hover _ _ hpast hnow').elim
      · exact (hover _ _ hpast' hnow).elim
      · exact (effect_step e s).ended_once hnow hnow'

/-- **Step.**  The account of an operation that ends. -/
theorem Recorded.account {orders : List (Settings × Order)} {e e' : Engine} {s : Stimulus}
    {past events : List Event} {id : Nat} {outcome : Outcome} (h : Recorded orders e past)
    (placed : e.next = orders.length) (hnew : ∀ event ∈ past, event.number? ≠ some e.next)
    (heffect : Effect e s e' events) (hmem : .ended id outcome ∈ events) :
    ∃ settings order, (orders ++ s.order?.toList)[id]? = some (settings, order) ∧
      Account settings order e.registry (callsOf id (past ++ events))
        (answeredOf id (past ++ events)) outcome := by
  cases heffect.endedBy hmem with
  | refused number start =>
      rename_i settings order r
      subst number
      obtain ⟨hcalls, hanswered⟩ := calls_answered_eq_nil hnew
      obtain ⟨rfl, cause, rfl, _⟩ := Operation.start_ends start
      refine ⟨settings, order, ?_, ?_⟩
      · rw [placed]
        simp [Stimulus.order?]
      · rw [callsOf_append, answeredOf_append, hcalls, hanswered]
        exact .refused start
  | ended found admits resume =>
      rename_i signal op r
      obtain ⟨settings, order, horder, hserves, hcame, hmade⟩ := h id op found
      obtain ⟨hcalls, hanswered⟩ := calls_answered_answerEvents id op signal
      have hid := (List.getElem?_eq_some_iff.mp horder).1
      refine ⟨settings, order, (List.getElem?_append_left hid).trans horder, ?_⟩
      have hend : callsOf id [Event.ended id outcome] = [] ∧
          answeredOf id [Event.ended id outcome] = [] := ⟨rfl, rfl⟩
      rw [callsOf_append, callsOf_append, answeredOf_append, answeredOf_append, hcalls, hanswered,
        hend.1, hend.2, hmade, List.append_nil, List.append_nil, List.append_nil]
      exact hcame.account hserves resume

/-- **The account.**  Whatever happens before and after, an operation that ends has called
for just what it accounts for, and so was it answered. -/
theorem account_of_ended {r : Registry} {first : List Stimulus} {s : Stimulus} {id : Nat}
    {outcome : Outcome} (hended : .ended id outcome ∈ (((ofRegistry r).run first).1.step s).2)
    (rest : List Stimulus) :
    ∃ settings order, (ordersOf (first ++ s :: rest))[id]? = some (settings, order) ∧
      Account settings order ((ofRegistry r).run first).1.registry
        (callsOf id ((ofRegistry r).run (first ++ s :: rest)).2)
        (answeredOf id ((ofRegistry r).run (first ++ s :: rest)).2) outcome := by
  have htrace := trace_run r first
  have heffect := effect_step ((ofRegistry r).run first).1 s
  have hfinished := (owned_trace htrace).finished heffect hended rfl
  obtain ⟨hcalls, hanswered⟩ := calls_answered_eq_nil (hfinished.quiet rest)
  obtain ⟨settings, order, horder, haccount⟩ := (recorded_trace htrace).account
    (serving_trace htrace).placed
    (fun event hmem hnumber => Nat.lt_irrefl _ (htrace.number_lt hmem hnumber)) heffect hended
  refine ⟨settings, order, ?_, ?_⟩
  · have hid := (List.getElem?_eq_some_iff.mp horder).1
    have hsplit : first ++ s :: rest = (first ++ [s]) ++ rest := by simp
    rw [← ordersOf_concat] at horder hid
    rw [hsplit, ordersOf, List.filterMap_append]
    exact (List.getElem?_append_left hid).trans horder
  · rw [run_split, ← List.append_assoc, callsOf_append, answeredOf_append, hcalls, hanswered,
      List.append_nil, List.append_nil]
    exact haccount

/-- The account of an operation that has ended in a run. -/
theorem account_of_mem {r : Registry} {stimuli : List Stimulus} {id : Nat} {outcome : Outcome}
    (hended : .ended id outcome ∈ ((ofRegistry r).run stimuli).2) :
    ∃ settings order noted, (ordersOf stimuli)[id]? = some (settings, order) ∧
      Account settings order noted (callsOf id ((ofRegistry r).run stimuli).2)
        (answeredOf id ((ofRegistry r).run stimuli).2) outcome := by
  obtain ⟨first, s, rest, rfl, hstep⟩ := exists_step_of_mem hended
  obtain ⟨settings, order, horder, haccount⟩ := account_of_ended hstep rest
  exact ⟨settings, order, _, horder, haccount⟩

/-- **Step.**  An operation calls for nothing as it ends. -/
theorem Effect.callsOf_of_ended {e e' : Engine} {s : Stimulus} {events : List Event} {id : Nat}
    {outcome : Outcome} (h : Effect e s e' events) (hmem : .ended id outcome ∈ events) :
    callsOf id events = [] := by
  cases h.endedBy hmem with
  | refused number start => rfl
  | ended found admits resume =>
      rw [callsOf_append, (calls_answered_answerEvents id _ _).1]
      rfl

/-- **Run.**  An operation that has ended has called for what it had called for before. -/
theorem callsOf_of_ended {r : Registry} {first : List Stimulus} {s : Stimulus} {id : Nat}
    {outcome : Outcome} (hended : .ended id outcome ∈ (((ofRegistry r).run first).1.step s).2)
    (rest : List Stimulus) :
    callsOf id ((ofRegistry r).run (first ++ s :: rest)).2 =
      callsOf id ((ofRegistry r).run first).2 := by
  have heffect := effect_step ((ofRegistry r).run first).1 s
  have hfinished := (owned_trace (trace_run r first)).finished heffect hended rfl
  rw [run_split, callsOf_append, callsOf_append, heffect.callsOf_of_ended hended,
    (calls_answered_eq_nil (hfinished.quiet rest)).1, List.append_nil, List.append_nil]

/-! ## What an operation does to the registry -/

/-- Nothing is served to the poller of an operation that has called for no transfer. -/
theorem unserved_of_unmoved {r : Registry} {stimuli : List Stimulus} {e : Engine}
    {events : List Event} {id : Nat} (h : Trace r stimuli e events)
    (still : ∀ action object, .move action object ∉ callsOf id events) :
    answersTo id events = [] := by
  induction h with
  | start => rfl
  | step before s ih =>
      rename_i stimuli e events
      have hpast : ∀ action object, .move action object ∉ callsOf id events := by
        intro action object hmem
        apply still action object
        rw [callsOf_append]
        exact List.mem_append_left _ hmem
      rw [answersTo_append, ih hpast, List.nil_append]
      apply answersTo_eq_nil
      intro job answer hmem
      obtain ⟨_, p, found, _, _, live⟩ := (effect_step e s).of_served hmem
      have hown := owned_trace before
      obtain ⟨op, hop⟩ := hown.followed id p found live
      obtain ⟨action, object, hmoved, _⟩ := (recorded_trace before).moved hown hop found
      exact hpast action object hmoved

/-- A stimulus concerns an operation if it is for the operation, for its poller or for
the end of its wait. -/
def Concerns (e : Engine) (id : Nat) (s : Stimulus) : Prop :=
  e.actor? s = some id ∨ s = .dropped id

/-- No stimulus that concerns an operation changes a part of the registry. -/
def LeavesAlone {α : Type} (r : Registry) (stimuli : List Stimulus) (id : Nat)
    (part : Registry → α) : Prop :=
  ∀ first s rest, stimuli = first ++ s :: rest →
    Concerns ((ofRegistry r).run first).1 id s →
      part (((ofRegistry r).run first).1.step s).1.registry =
        part ((ofRegistry r).run first).1.registry

/-- **Step.**  An operation reaches the snapshots only as it ends well. -/
theorem Effect.snapshots_of_own {e e' : Engine} {s : Stimulus} {events : List Event} {id : Nat}
    (h : Effect e s e' events) (hmine : Concerns e id s) :
    e'.registry.snapshots = e.registry.snapshots ∨
      ∃ success, .ended id (.ok success) ∈ events := by
  cases h.snapshots with
  | kept same unconfirmed => exact .inl same
  | inserted found stage settled snapshots =>
      rcases hmine with hactor | hdropped
      · cases hactor
        exact .inr ⟨_, List.mem_singleton_self _⟩
      · cases hdropped
  | removed found stage snapshots unconfirmed ended =>
      rcases hmine with hactor | hdropped
      · cases hactor
        exact .inr ⟨.deleted, ended⟩
      · cases hdropped

/-- An operation has called for something that says that it reaches the registry. -/
def HasEngaged (id : Nat) (events : List Event) : Prop :=
  ∃ call ∈ callsOf id events, call.engages

theorem HasEngaged.append {id : Nat} {past : List Event} (h : HasEngaged id past)
    (later : List Event) : HasEngaged id (past ++ later) := by
  obtain ⟨call, hmem, hengages⟩ := h
  refine ⟨call, ?_, hengages⟩
  rw [callsOf_append]
  exact List.mem_append_left _ hmem

section Own

variable {orders : List (Settings × Order)} {e : Engine} {events : List Event} {id : Nat}
  {op : Operation} {r : Registry}

/-- An operation that waits again leaves the registry as it was, or holds a marker and so has
called for something that says so. -/
theorem Recorded.keep (h : Recorded orders (e.keep id r op) events)
    (hreaches : r = e.registry ∨ ∃ name, op.marker? = some name) :
    (e.keep id r op).registry = e.registry ∨ HasEngaged id events := by
  rcases hreaches with rfl | ⟨name, hmarker⟩
  · exact .inl (registry_keep ..)
  · have hkept : (e.keep id r op).operations.get? id = some op := by
      rw [get?_operations_keep, if_pos rfl]
    exact .inr (h.engaged hkept hmarker)

/-- So does one that is taken out. -/
theorem Recorded.remove (h : Recorded orders e events)
    (found : e.operations.get? id = some op) :
    (e.remove id op).registry = e.registry ∨ HasEngaged id events := by
  cases hmarker : op.marker? with
  | none =>
      left
      simp only [Engine.remove, hmarker, cancelPoller]
  | some name => exact .inr (h.engaged found hmarker)

/-- And whoever has a poller that is told anything has called for a transfer. -/
theorem Recorded.hasEngaged_of_poller {p : Poller} (h : Recorded orders e events) (hown : Owned e)
    (found : e.pollers.get? id = some p) (live : p.cancelled = false) : HasEngaged id events := by
  obtain ⟨op, hop⟩ := hown.followed id p found live
  obtain ⟨action, object, hmem, hengages⟩ := h.moved hown hop found
  exact ⟨_, hmem, hengages⟩

end Own

/-- **Step.**  An operation reaches the registry only after it has called for something
that says so, and as it ends well. -/
theorem Effect.registry_of_own {orders orders' : List (Settings × Order)} {e e' : Engine}
    {s : Stimulus} {past events : List Event} {id : Nat} (h : Effect e s e' events)
    (hown : Owned e) (hbefore : Recorded orders e past)
    (hafter : Recorded orders' e' (past ++ events)) (hmine : Concerns e id s) :
    e'.registry = e.registry ∨ HasEngaged id (past ++ events) ∨
      ∃ success, .ended id (.ok success) ∈ events := by
  cases h with
  | idle unordered => exact .inl rfl
  | refused start =>
      obtain ⟨rfl, _⟩ := Operation.start_ends start
      exact .inl rfl
  | started start =>
      rcases hmine with hactor | hdropped
      · cases hactor
        refine (hafter.keep ?_).imp_right .inl
        rcases (Operation.start_waits start).2.2 with ⟨_, rfl⟩ | ⟨job, hjob, _⟩
        · exact .inl rfl
        · exact .inr ⟨job.volumeId, by rw [Operation.marker?_eq, hjob]; rfl⟩
      · cases hdropped
  | looked => rcases hmine with hactor | hdropped <;> contradiction
  | wentOn found admits resume =>
      rcases hmine with hactor | hdropped
      · cases hactor
        refine (hafter.keep ?_).imp_right .inl
        rcases (Operation.goesOn_of_resume resume).marker? with ⟨rfl, _⟩ | ⟨_, _, job, hmarker, _⟩
        · exact .inl rfl
        · exact .inr ⟨_, hmarker⟩
      · cases hdropped
  | ended found admits resume =>
      rename_i outcome
      rcases hmine with hactor | hdropped
      · cases hactor
        cases outcome with
        | ok success => exact .inr (.inr ⟨success, by simp⟩)
        | error cause =>
            have hsame := Operation.ends_of_resume resume
            cases hsame <;> exact (hbefore.remove found).imp_right fun h => .inl (h.append _)
      · cases hdropped
  | dropped found =>
      rcases hmine with hactor | hdropped
      · cases hactor
      · cases hdropped
        exact (hbefore.remove found).imp_right fun h => .inl (h.append _)
  | heard found asking live =>
      rcases hmine with hactor | hdropped
      · cases hactor
        exact .inr (.inl ((hbefore.hasEngaged_of_poller hown found live).append _))
      · cases hdropped
  | unheard found asking live => exact .inl rfl
  | unserved found => exact .inl rfl

variable {r : Registry} {stimuli : List Stimulus} {id : Nat} {cause : Failure}

/-- **Run.**  An operation that fails leaves the snapshots alone. -/
theorem snapshots_left_alone
    (hended : .ended id (.error cause) ∈ ((ofRegistry r).run stimuli).2) :
    LeavesAlone r stimuli id Registry.snapshots := by
  intro first s rest hsplit hmine
  rcases (effect_step _ s).snapshots_of_own hmine with hsame | ⟨success, hok⟩
  · exact hsame
  · cases ended_once (trace_run r stimuli) hended (mem_run_of_step hsplit hok)

/-- **Run.**  An operation that fails without having called for anything that says so
leaves the whole registry alone. -/
theorem registry_left_alone
    (hended : .ended id (.error cause) ∈ ((ofRegistry r).run stimuli).2)
    (hcalls : ∀ call ∈ callsOf id ((ofRegistry r).run stimuli).2, call.engages = false) :
    LeavesAlone r stimuli id fun registry => registry := by
  intro first s rest hsplit hmine
  have htrace := trace_run r first
  have hafter := recorded_trace (htrace.step s)
  rcases (effect_step _ s).registry_of_own (owned_trace htrace) (recorded_trace htrace) hafter
    hmine with hsame | ⟨call, hmem, hengages⟩ | ⟨success, hok⟩
  · exact hsame
  · have hlater : call ∈ callsOf id ((ofRegistry r).run stimuli).2 := by
      rw [hsplit, run_split, ← List.append_assoc, callsOf_append]
      exact List.mem_append_left _ hmem
    cases (hcalls call hlater).symm.trans hengages
  · cases ended_once (trace_run r stimuli) hended (mem_run_of_step hsplit hok)

end Engine

end SnapshotEngine
