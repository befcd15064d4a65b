import SnapshotEngine.Proofs.Engine.Naming
import SnapshotEngine.Rehearsal.ObjectStore

/-!
# An engine and its object store

The engine is told how a transfer ends.  Here it is told so by an object store in
memory: a transfer ends with what the store makes of it, at the moment at which
the store does, and all else is as open as before.  A run of an engine with its
store is therefore a run of the engine.

* `Effect`, `effect_step` — what a step does to the engine and to the store;
* `Trace.engine` — the run of the engine in a run of both.
-/

namespace SnapshotEngine

/-- An engine, and the store that its data goes to. -/
structure Depot where
  engine : Engine
  store : MemoryStore
deriving Inhabited

namespace Depot

/-- What may happen to an engine with its store. -/
inductive Stimulus where
  /-- Something happens to the engine. -/
  | toEngine (s : SnapshotEngine.Stimulus)
  /-- Something is arranged with the store. -/
  | toStore (cue : StoreCue)
  /-- A transfer arrives at the store, which takes note of it. -/
  | arrived (action : TransferAction) (object : String)
deriving Inhabited

/-- The depot of which nothing was asked yet. -/
def start (r : Registry) (store : MemoryStore) : Depot := ⟨Engine.ofRegistry r, store⟩

/-- The transfer that a stimulus brings to an end. -/
def transfer? (d : Depot) : SnapshotEngine.Stimulus → Option (Nat × TransferAction × String)
  | .signalled id (.answered (.moved _)) =>
      match (d.engine.operations.get? id).bind (·.call?) with
      | some (.move action object) => some (id, action, object)
      | _ => none
  | _ => none

/-- What a stimulus does: a transfer ends as the store has it, and not before the
store is ready. -/
def step (d : Depot) : Stimulus → Depot × List Event
  | .toStore cue => ({ d with store := d.store.cue cue }, [])
  | .arrived action object => ({ d with store := d.store.arrive object action }, [])
  | .toEngine s =>
      match d.transfer? s with
      | none => ({ d with engine := (d.engine.step s).1 }, (d.engine.step s).2)
      | some (id, action, object) =>
          match d.store.move object action with
          | none => (d, [])
          | some (done, store) =>
              let after := d.engine.step (.signalled id (.answered (.moved done)))
              (⟨after.1, store⟩, after.2)

/-- A stimulus that ends no transfer is for the engine alone. -/
theorem step_toEngine {d : Depot} {s : SnapshotEngine.Stimulus}
    (h : ∀ id done, s ≠ .signalled id (.answered (.moved done))) :
    d.step (.toEngine s) = ({ d with engine := (d.engine.step s).1 }, (d.engine.step s).2) := by
  have htransfer : d.transfer? s = none := by
    unfold transfer?
    split
    · rename_i id done
      exact absurd rfl (h id done)
    · rfl
  simp only [Depot.step, htransfer]

/-- A transfer ends as the store has it. -/
theorem step_moved {d : Depot} {id : Nat} {op : Operation} {action : TransferAction}
    {object : String} {done : Bool} {store : MemoryStore}
    (found : d.engine.operations.get? id = some op)
    (waited : op.call? = some (.move action object))
    (move : d.store.move object action = some (done, store)) :
    d.step (.toEngine (.signalled id (.answered (.moved done)))) =
      (⟨(d.engine.step (.signalled id (.answered (.moved done)))).1, store⟩,
        (d.engine.step (.signalled id (.answered (.moved done)))).2) := by
  have htransfer : d.transfer? (.signalled id (.answered (.moved done))) =
      some (id, action, object) := by
    simp only [transfer?, found, Option.bind_some, waited]
  simp only [Depot.step, htransfer, move]

/-- What a list of stimuli does. -/
def run (d : Depot) : List Stimulus → Depot × List Event
  | [] => (d, [])
  | s :: rest =>
      let here := d.step s
      let after := here.1.run rest
      (after.1, here.2 ++ after.2)

/-- A run goes on where another has stopped. -/
theorem run_append (d : Depot) (first rest : List Stimulus) :
    d.run (first ++ rest) =
      (((d.run first).1.run rest).1, (d.run first).2 ++ ((d.run first).1.run rest).2) := by
  induction first generalizing d with
  | nil => rfl
  | cons s more ih => simp [run, ih]

/-- The last step of a run follows what came before. -/
theorem run_concat (d : Depot) (stimuli : List Stimulus) (s : Stimulus) :
    d.run (stimuli ++ [s]) =
      (((d.run stimuli).1.step s).1, (d.run stimuli).2 ++ ((d.run stimuli).1.step s).2) := by
  rw [run_append]
  simp [run]

/-- What a stimulus may do. -/
inductive Effect (d : Depot) : Stimulus → Depot → List Event → Prop where
  | arranged {cue : StoreCue} : Effect d (.toStore cue) { d with store := d.store.cue cue } []
  | arrived {action : TransferAction} {object : String} :
      Effect d (.arrived action object) { d with store := d.store.arrive object action } []
  /-- The store is not ready. -/
  | waiting {s : SnapshotEngine.Stimulus} : Effect d (.toEngine s) d []
  /-- No transfer comes to an end. -/
  | stepped {s : SnapshotEngine.Stimulus} (other : d.transfer? s = none) :
      Effect d (.toEngine s) { d with engine := (d.engine.step s).1 } (d.engine.step s).2
  /-- A transfer comes to an end, in the store and for its operation. -/
  | moved {s : SnapshotEngine.Stimulus} {id : Nat} {op : Operation} {action : TransferAction}
      {object : String} {done : Bool} {store : MemoryStore}
      (found : d.engine.operations.get? id = some op)
      (call : op.call? = some (.move action object))
      (move : d.store.move object action = some (done, store)) :
      Effect d (.toEngine s)
        ⟨(d.engine.step (.signalled id (.answered (.moved done)))).1, store⟩
        (d.engine.step (.signalled id (.answered (.moved done)))).2

/-- The transfer that comes to an end is what its operation waits for. -/
theorem call?_of_transfer? {d : Depot} {s : SnapshotEngine.Stimulus} {id : Nat}
    {action : TransferAction} {object : String} (h : d.transfer? s = some (id, action, object)) :
    ∃ op, d.engine.operations.get? id = some op ∧ op.call? = some (.move action object) := by
  unfold transfer? at h
  split at h
  · split at h
    · rename_i hbind
      cases h
      exact Option.bind_eq_some_iff.mp hbind
    · cases h
  · cases h

/-- **Every step.**  What a stimulus does is one of its effects. -/
theorem effect_step (d : Depot) (s : Stimulus) : Effect d s (d.step s).1 (d.step s).2 := by
  cases s with
  | toStore cue => exact .arranged
  | arrived action object => exact .arrived
  | toEngine s =>
      simp only [step]
      cases htransfer : d.transfer? s with
      | none => exact .stepped htransfer
      | some transfer =>
          obtain ⟨id, action, object⟩ := transfer
          obtain ⟨op, found, call⟩ := call?_of_transfer? htransfer
          dsimp only
          cases hmove : d.store.move object action with
          | none => exact .waiting
          | some answer => exact .moved found call hmove

/-- A run from a registry and a store, seen as one step after another. -/
inductive Trace (r : Registry) (store : MemoryStore) :
    List Stimulus → Depot → List Event → Prop where
  | start : Trace r store [] (start r store) []
  | step {stimuli : List Stimulus} {d : Depot} {events : List Event}
      (before : Trace r store stimuli d events) (s : Stimulus) :
      Trace r store (stimuli ++ [s]) (d.step s).1 (events ++ (d.step s).2)

/-- Every run is one step after another. -/
theorem trace_run (r : Registry) (store : MemoryStore) (stimuli : List Stimulus) :
    Trace r store stimuli ((start r store).run stimuli).1 ((start r store).run stimuli).2 := by
  induction stimuli using List.reverseRecOn with
  | nil => exact .start
  | append_singleton stimuli s ih =>
      rw [run_concat]
      exact ih.step s

/-- **The engine in a depot.**  What the engine of a depot goes through is a run of
the engine, with no orders but those that were placed. -/
theorem Trace.engine {r : Registry} {store : MemoryStore} {stimuli : List Stimulus} {d : Depot}
    {events : List Event} (h : Trace r store stimuli d events) :
    ∃ performed, Engine.Trace r performed d.engine events ∧
      ∀ settings order, (settings, order) ∈ ordersOf performed →
        .toEngine (.ordered settings order) ∈ stimuli := by
  induction h with
  | start => exact ⟨[], .start, fun _ _ hmem => by cases hmem⟩
  | step before s ih =>
      rename_i stimuli d events
      obtain ⟨performed, htrace, horders⟩ := ih
      have hidle : ∀ settings order, (settings, order) ∈ ordersOf performed →
          Stimulus.toEngine (.ordered settings order) ∈ stimuli ++ [s] :=
        fun settings order hmem => List.mem_append_left _ (horders settings order hmem)
      -- A step of the engine places at most the order of the stimulus itself.
      have hstep : ∀ t : SnapshotEngine.Stimulus,
          (∀ settings order, t.order? = some (settings, order) →
            s = .toEngine (.ordered settings order)) →
          ∀ settings order, (settings, order) ∈ ordersOf (performed ++ [t]) →
            Stimulus.toEngine (.ordered settings order) ∈ stimuli ++ [s] := by
        intro t ht settings order hmem
        rw [ordersOf_concat] at hmem
        rcases List.mem_append.mp hmem with hmem | hmem
        · exact hidle settings order hmem
        · have hs := ht settings order (Option.mem_toList.mp hmem)
          rw [hs]
          simp
      have heffect := effect_step d s
      generalize (d.step s).1 = d', (d.step s).2 = new at heffect ⊢
      cases heffect with
      | arranged => exact ⟨performed, by simpa using htrace, hidle⟩
      | arrived => exact ⟨performed, by simpa using htrace, hidle⟩
      | waiting => exact ⟨performed, by simpa using htrace, hidle⟩
      | stepped other =>
          rename_i t
          refine ⟨performed ++ [t], htrace.step t, hstep t ?_⟩
          intro settings order heq
          cases t <;> cases heq
          rfl
      | moved found call move =>
          exact ⟨_, htrace.step _, hstep _ nofun⟩

end Depot

end SnapshotEngine
