import SnapshotEngine.Discovery
import SnapshotEngine.Operation

/-!
# The engine

Any number of operations run on one registry, each with settings of its own.
The engine holds the registry, the operations in progress and the pollers, and
moves on by one stimulus at a time: an order, a claim that the cluster reports,
a signal for an operation or for a poller, or the loss of interest in an
operation.  Which stimulus comes next, and what the collaborators answer, is not
for the engine to say, so a statement about all lists of stimuli is a statement
about every way in which operations can interleave.

An operation and its poller share a number.  A poller starts with the
confirmation of its operation and is cancelled when the operation asks for it,
ends or is dropped; the marker of an operation is released when it ends or is
dropped.  Stimuli that nothing waits for change nothing.

* `step_signal_of_absent` — a number that no operation goes by is not reached by
  any signal;
* `run_append` — a run goes on where another has stopped.
-/

namespace SnapshotEngine

/-- A registry, the operations at work on it, and their pollers. -/
structure Engine where
  registry : Registry
  operations : Table Nat Operation
  pollers : Table Nat Poller
  /-- The number of the next operation. -/
  next : Nat
deriving Inhabited

/-- What may happen to an engine. -/
inductive Stimulus where
  /-- An operation is ordered, with the settings it is to go by. -/
  | ordered (settings : Settings) (order : Order)
  /-- The cluster reports a volume. -/
  | reported (claim : Claim)
  /-- A signal reaches an operation. -/
  | signalled (id : Nat) (signal : Signal)
  /-- A signal reaches a poller. -/
  | woken (id : Nat) (signal : PollerSignal)
  /-- Nobody waits for an operation any more. -/
  | dropped (id : Nat)
deriving Inhabited

/-- What an engine does, as seen from outside. -/
inductive Event where
  /-- An operation has made a call. -/
  | called (id : Nat) (call : Call)
  /-- The call of an operation was answered. -/
  | answered (id : Nat) (call : Call) (answer : Answer)
  /-- An answer was served to the poller of an operation. -/
  | served (id : Nat) (job : JobHandle) (answer : Except ControlPlaneError JobStatus)
  /-- An operation has ended. -/
  | ended (id : Nat) (outcome : Outcome)
  /-- An operation was dropped. -/
  | dropped (id : Nat)
  /-- A claim was looked at. -/
  | discovered (result : Except Failure (Option String))
deriving Inhabited

namespace Engine

/-- The engine of which nothing was asked yet. -/
def ofRegistry (r : Registry) : Engine := ⟨r, .empty, .empty, 0⟩

/-- The engine of which nothing was asked yet and that knows nothing. -/
def empty : Engine := ofRegistry .empty

/-- Asks the poller of an operation to stop. -/
def cancelPoller (e : Engine) (id : Nat) : Engine :=
  { e with pollers := e.pollers.modify id .cancel }

/-- Whether the poller of an operation has stopped. -/
def pollerExited (e : Engine) (id : Nat) : Bool :=
  ((e.pollers.get? id).map (·.hasExited)).getD true

/-- Takes an operation out: its marker is released and its poller cancelled. -/
def remove (e : Engine) (id : Nat) (op : Operation) : Engine :=
  let released :=
    match op.marker? with
    | some name => e.registry.release name
    | none => e.registry
  { e with registry := released, operations := e.operations.erase id }.cancelPoller id

/-- Gives an operation its poller: a fresh one when its confirmation starts; one
that is cancelled is not followed any longer. -/
def tendPoller (e : Engine) (id : Nat) (op : Operation) : Engine :=
  match op.confirmation? with
  | none => e
  | some confirmation =>
      match confirmation.stage with
      | .transferring =>
          { e with
            pollers := e.pollers.insert id
              (.start confirmation.job op.settings.pollInterval) }
      | .settling => e
      | .joining => e.cancelPoller id

/-- Keeps an operation that waits again under its number. -/
def keep (e : Engine) (id : Nat) (r : Registry) (op : Operation) : Engine :=
  { e with registry := r, operations := e.operations.insert id op }.tendPoller id op

/-- The call that an operation has just made. -/
def callEvents (id : Nat) (op : Operation) : List Event :=
  match op.call? with
  | some call => [.called id call]
  | none => []

/-- Starts an operation under the next number. -/
def order (e : Engine) (settings : Settings) (order : Order) : Engine × List Event :=
  let id := e.next
  let e := { e with next := e.next + 1 }
  match Operation.start e.registry settings order with
  | .waits r op => (e.keep id r op, callEvents id op)
  | .ends r outcome => ({ e with registry := r }, [.ended id outcome])

/-- Whether a signal may reach an operation: it hears of the stop of its poller
only when the poller has stopped. -/
def admits (e : Engine) (id : Nat) : Signal → Bool
  | .pollerExited => e.pollerExited id
  | _ => true

/-- The answer that a signal brings to the call of an operation. -/
def answerEvents (id : Nat) (op : Operation) : Signal → List Event
  | .answered answer =>
      match op.call? with
      | some call => [.answered id call answer]
      | none => []
  | _ => []

/-- Resumes an operation with a signal. -/
def signal (e : Engine) (id : Nat) (signal : Signal) : Engine × List Event :=
  match e.operations.get? id with
  | none => (e, [])
  | some op =>
      if e.admits id signal then
        match op.resume e.registry signal with
        | none => (e, [])
        | some (.waits r next) =>
            (e.keep id r next, answerEvents id op signal ++ callEvents id next)
        | some (.ends r outcome) =>
            ({ e with registry := r }.remove id op,
              answerEvents id op signal ++ [.ended id outcome])
      else (e, [])

/-- Wakes a poller; what it hears is noted in the registry. -/
def wake (e : Engine) (id : Nat) (signal : PollerSignal) : Engine × List Event :=
  match e.pollers.get? id with
  | none => (e, [])
  | some poller =>
      let registry :=
        match poller.noted? signal with
        | some status => e.registry.record poller.job status
        | none => e.registry
      let events :=
        match poller.served? signal with
        | some answer => [Event.served id poller.job answer]
        | none => []
      ({ e with
          registry := registry
          pollers := e.pollers.insert id (poller.advance signal) }, events)

/-- Drops an operation that is still in progress. -/
def drop (e : Engine) (id : Nat) : Engine × List Event :=
  match e.operations.get? id with
  | none => (e, [])
  | some op => (e.remove id op, [.dropped id])

/-- What a stimulus does. -/
def step (e : Engine) : Stimulus → Engine × List Event
  | .ordered settings order => e.order settings order
  | .reported claim =>
      let found := discover e.registry claim
      ({ e with registry := found.2 }, [.discovered found.1])
  | .signalled id signal => e.signal id signal
  | .woken id signal => e.wake id signal
  | .dropped id => e.drop id

/-- What a list of stimuli does. -/
def run (e : Engine) : List Stimulus → Engine × List Event
  | [] => (e, [])
  | s :: rest =>
      let here := e.step s
      let after := here.1.run rest
      (after.1, here.2 ++ after.2)

/-- A number that no operation goes by is not reached by any signal. -/
theorem step_signal_of_absent {e : Engine} {id : Nat} (h : e.operations.get? id = none)
    (signal : Signal) : e.step (.signalled id signal) = (e, []) := by
  simp [step, Engine.signal, h]

/-- A run goes on where another has stopped. -/
theorem run_append (e : Engine) (first rest : List Stimulus) :
    e.run (first ++ rest) =
      (((e.run first).1.run rest).1, (e.run first).2 ++ ((e.run first).1.run rest).2) := by
  induction first generalizing e with
  | nil => rfl
  | cons s more ih => simp [run, ih]

end Engine

end SnapshotEngine
