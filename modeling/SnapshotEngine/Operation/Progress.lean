import SnapshotEngine.Operation.Call
import SnapshotEngine.Registry

/-!
# Where a step of an operation leads

A step reads and writes the registry.  After it the operation waits again, or it
has ended with an outcome.

* `waits_of_map`, `ends_of_map` — a step of one operation, seen as one of any.
-/

namespace SnapshotEngine

/-- Where a step of an operation leads, and the registry after it. -/
inductive Progress (σ : Type) where
  | waits (registry : Registry) (next : σ)
  | ends (registry : Registry) (outcome : Outcome)
deriving Inhabited

namespace Progress

variable {σ τ : Type}

/-- The same step of an operation that is seen as another. -/
def map (f : σ → τ) : Progress σ → Progress τ
  | .waits r next => .waits r (f next)
  | .ends r outcome => .ends r outcome

/-- The registry after the step. -/
def registry : Progress σ → Registry
  | .waits r _ | .ends r _ => r

/-- A step that is seen as another leads to where it leads itself. -/
theorem waits_of_map {f : σ → τ} {p : Progress σ} {r : Registry} {next : τ}
    (h : p.map f = .waits r next) : ∃ state, p = .waits r state ∧ next = f state := by
  cases p with
  | waits r' state =>
      cases h
      exact ⟨state, rfl, rfl⟩
  | ends r' outcome => cases h

theorem ends_of_map {f : σ → τ} {p : Progress σ} {r : Registry} {outcome : Outcome}
    (h : p.map f = .ends r outcome) : p = .ends r outcome := by
  cases p with
  | waits r' state => cases h
  | ends r' outcome' =>
      cases h
      rfl

theorem some_waits_of_map {f : σ → τ} {p : Option (Progress σ)} {r : Registry} {next : τ}
    (h : p.map (·.map f) = some (.waits r next)) :
    ∃ state, p = some (.waits r state) ∧ next = f state := by
  obtain ⟨step, rfl, hstep⟩ := Option.map_eq_some_iff.mp h
  obtain ⟨state, rfl, rfl⟩ := waits_of_map hstep
  exact ⟨state, rfl, rfl⟩

theorem some_ends_of_map {f : σ → τ} {p : Option (Progress σ)} {r : Registry} {outcome : Outcome}
    (h : p.map (·.map f) = some (.ends r outcome)) : p = some (.ends r outcome) := by
  obtain ⟨step, rfl, hstep⟩ := Option.map_eq_some_iff.mp h
  rw [ends_of_map hstep]

end Progress

end SnapshotEngine
