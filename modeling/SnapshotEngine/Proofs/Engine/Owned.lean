import SnapshotEngine.Proofs.Engine.Step
import SnapshotEngine.Proofs.Poller

/-!
# Who holds which marker

Two things keep operations that interleave out of each other's way.  Markers are
held by one operation at a time, and a poller that still listens belongs to an
operation that is still in progress.  Both hold in every engine that is reached.

* `Owned` — the two, as an invariant;
* `Owned.keep`, `Owned.remove`, `Owned.of_poller` — the ways to preserve it;
* `Owned.effect`, `owned_trace` — every step does, so every run does.
-/

namespace SnapshotEngine

namespace Engine

/-- Numbers are given once, markers are held by one operation each, the poller of
an operation in progress asks after the job of its transfer, and a poller that was
not cancelled has an operation in progress. -/
structure Owned (e : Engine) : Prop where
  numbered : ∀ id op, e.operations.get? id = some op → id < e.next
  pollerNumbered : ∀ id p, e.pollers.get? id = some p → id < e.next
  holds : ∀ id op name, e.operations.get? id = some op → op.marker? = some name →
    e.registry.inFlight name
  apart : ∀ i j op op' name, e.operations.get? i = some op → e.operations.get? j = some op' →
    op.marker? = some name → op'.marker? = some name → i = j
  asks : ∀ id p op, e.pollers.get? id = some p → e.operations.get? id = some op →
    ∃ c, op.confirmation? = some c ∧ c.job = p.job
  followed : ∀ id p, e.pollers.get? id = some p → p.cancelled = false →
    ∃ op, e.operations.get? id = some op

theorem owned_ofRegistry (r : Registry) : Owned (ofRegistry r) := by
  have hoperations : ∀ id, (ofRegistry r).operations.get? id = none := fun _ => rfl
  have hpollers : ∀ id, (ofRegistry r).pollers.get? id = none := fun _ => rfl
  constructor <;> simp [hoperations, hpollers]

/-- Nothing goes by the next number. -/
theorem Owned.absent_next {e : Engine} (h : Owned e) :
    e.operations.get? e.next = none ∧ e.pollers.get? e.next = none := by
  constructor
  · cases hget : e.operations.get? e.next with
    | none => rfl
    | some op => exact absurd (h.numbered e.next op hget) (Nat.lt_irrefl _)
  · cases hget : e.pollers.get? e.next with
    | none => rfl
    | some p => exact absurd (h.pollerNumbered e.next p hget) (Nat.lt_irrefl _)

/-- An operation without a transfer has no poller. -/
theorem Owned.poller_absent {e : Engine} {id : Nat} {op : Operation} (h : Owned e)
    (found : e.operations.get? id = some op) (before : op.confirmation? = none) :
    e.pollers.get? id = none := by
  cases hget : e.pollers.get? id with
  | none => rfl
  | some p =>
      obtain ⟨c, hc, _⟩ := h.asks id p op hget found
      cases before.symm.trans hc

/-- Volumes and snapshots may change, and a number may be skipped. -/
theorem Owned.of_held {e : Engine} {r : Registry} {next : Nat} (h : Owned e)
    (hheld : r.held = e.registry.held) (hnext : e.next ≤ next) :
    Owned { e with registry := r, next := next } where
  numbered id op hop := Nat.lt_of_lt_of_le (h.numbered id op hop) hnext
  pollerNumbered id p hp := Nat.lt_of_lt_of_le (h.pollerNumbered id p hp) hnext
  holds id op name hop hmarker := by
    have hin := h.holds id op name hop hmarker
    unfold Registry.inFlight at hin ⊢
    rw [hheld]
    exact hin
  apart := h.apart
  asks := h.asks
  followed := h.followed

/-- A poller may go on as long as it keeps its job. -/
theorem Owned.of_poller {e : Engine} {id : Nat} {p p' : Poller} (h : Owned e)
    (found : e.pollers.get? id = some p) (hjob : p'.job = p.job)
    (hcancelled : p'.cancelled = p.cancelled) :
    Owned { e with pollers := e.pollers.insert id p' } where
  numbered := h.numbered
  pollerNumbered k q hq := by
    by_cases hk : id = k
    · exact hk ▸ h.pollerNumbered id p found
    · rw [Table.get?_insert, if_neg hk] at hq
      exact h.pollerNumbered k q hq
  holds := h.holds
  apart := h.apart
  asks k q op hq hop := by
    by_cases hk : id = k
    · subst hk
      rw [Table.get?_insert, if_pos rfl] at hq
      cases hq
      rw [hjob]
      exact h.asks id p op found hop
    · rw [Table.get?_insert, if_neg hk] at hq
      exact h.asks k q op hq hop
  followed k q hq hlive := by
    by_cases hk : id = k
    · subst hk
      rw [Table.get?_insert, if_pos rfl] at hq
      cases hq
      exact h.followed id p found (hcancelled ▸ hlive)
    · rw [Table.get?_insert, if_neg hk] at hq
      exact h.followed k q hq hlive

/-- An operation that is taken out leaves the others as they are. -/
theorem Owned.remove {e : Engine} {id : Nat} {op : Operation} (h : Owned e)
    (found : e.operations.get? id = some op) : Owned (e.remove id op) := by
  have hothers : ∀ k other, (e.remove id op).operations.get? k = some other →
      k ≠ id ∧ e.operations.get? k = some other := by
    intro k other hk
    rw [get?_operations_remove] at hk
    split at hk
    · cases hk
    · rename_i hne
      exact ⟨fun heq => hne heq.symm, hk⟩
  refine ⟨?_, ?_, ?_, ?_, ?_, ?_⟩
  · intro k other hk
    exact h.numbered k other (hothers k other hk).2
  · intro k p hp
    rw [get?_pollers_remove] at hp
    split at hp
    · rename_i heq
      exact heq ▸ h.numbered id op found
    · exact h.pollerNumbered k p hp
  · intro k other name hk hmarker
    obtain ⟨hne, hk⟩ := hothers k other hk
    refine (inFlight_remove e id op name).mpr ⟨?_, h.holds k other name hk hmarker⟩
    intro hmine
    exact hne (h.apart k id other op name hk found hmarker hmine)
  · intro i j op₁ op₂ name hi hj hmarker₁ hmarker₂
    exact h.apart i j op₁ op₂ name (hothers i op₁ hi).2 (hothers j op₂ hj).2 hmarker₁ hmarker₂
  · intro k p other hp hk
    obtain ⟨hne, hk⟩ := hothers k other hk
    rw [get?_pollers_remove, if_neg hne.symm] at hp
    exact h.asks k p other hp hk
  · intro k p hp hlive
    rw [get?_pollers_remove] at hp
    split at hp
    · obtain ⟨q, _, rfl⟩ := Option.map_eq_some_iff.mp hp
      cases hlive
    · rename_i hne
      obtain ⟨other, hk⟩ := h.followed k p hp hlive
      refine ⟨other, ?_⟩
      rw [get?_operations_remove, if_neg hne]
      exact hk

/-- An operation that waits again may have taken a marker that nobody held. -/
theorem Owned.keep {e : Engine} {id : Nat} {r : Registry} {op : Operation} (h : Owned e)
    (hid : id < e.next)
    (hin : ∀ name, r.inFlight name ↔ op.marker? = some name ∨ e.registry.inFlight name)
    (hmine : ∀ name k other, op.marker? = some name → e.operations.get? k = some other →
      other.marker? = some name → k = id)
    (hpoller : ∀ p, (e.keep id r op).pollers.get? id = some p →
      ∃ c, op.confirmation? = some c ∧ c.job = p.job) : Owned (e.keep id r op) := by
  have hcases : ∀ k other, (e.keep id r op).operations.get? k = some other →
      (k = id ∧ other = op) ∨ (k ≠ id ∧ e.operations.get? k = some other) := by
    intro k other hk
    rw [get?_operations_keep] at hk
    split at hk
    · rename_i heq
      cases hk
      exact .inl ⟨heq.symm, rfl⟩
    · rename_i hne
      exact .inr ⟨fun heq => hne heq.symm, hk⟩
  refine ⟨?_, ?_, ?_, ?_, ?_, ?_⟩
  · intro k other hk
    rw [next_keep]
    rcases hcases k other hk with ⟨rfl, _⟩ | ⟨_, hk⟩
    · exact hid
    · exact h.numbered k other hk
  · intro k p hp
    rw [next_keep]
    by_cases heq : id = k
    · exact heq ▸ hid
    · rw [get?_pollers_keep_other heq] at hp
      exact h.pollerNumbered k p hp
  · intro k other name hk hmarker
    rw [registry_keep]
    apply (hin name).mpr
    rcases hcases k other hk with ⟨_, rfl⟩ | ⟨_, hk⟩
    · exact .inl hmarker
    · exact .inr (h.holds k other name hk hmarker)
  · intro i j op₁ op₂ name hi hj hmarker₁ hmarker₂
    rcases hcases i op₁ hi with ⟨rfl, rfl⟩ | ⟨_, hi'⟩ <;>
      rcases hcases j op₂ hj with ⟨rfl, rfl⟩ | ⟨_, hj'⟩
    · rfl
    · exact (hmine name j op₂ hmarker₁ hj' hmarker₂).symm
    · exact hmine name i op₁ hmarker₂ hi' hmarker₁
    · exact h.apart i j op₁ op₂ name hi' hj' hmarker₁ hmarker₂
  · intro k p other hp hk
    rcases hcases k other hk with ⟨rfl, rfl⟩ | ⟨hne, hk⟩
    · exact hpoller p hp
    · rw [get?_pollers_keep_other hne.symm] at hp
      exact h.asks k p other hp hk
  · intro k p hp hlive
    by_cases heq : id = k
    · refine ⟨op, ?_⟩
      rw [get?_operations_keep, if_pos heq]
    · rw [get?_pollers_keep_other heq] at hp
      obtain ⟨other, hk⟩ := h.followed k p hp hlive
      refine ⟨other, ?_⟩
      rw [get?_operations_keep, if_neg heq]
      exact hk

/-- Nobody else has the marker that was taken just now. -/
theorem Owned.keep_takes {e : Engine} {id : Nat} {r : Registry} {op : Operation} {job : JobHandle}
    (h : Owned e) (hid : id < e.next) (holds : op.job? = some job) (takes : e.registry.Takes r job)
    (hpoller : ∀ p, (e.keep id r op).pollers.get? id = some p →
      ∃ c, op.confirmation? = some c ∧ c.job = p.job) : Owned (e.keep id r op) := by
  have hmarker : ∀ name, op.marker? = some name ↔ name = job.volumeId := by
    intro name
    rw [Operation.marker?_eq, holds, Option.map_some, Option.some.injEq, eq_comm]
  refine h.keep hid ?_ ?_ hpoller
  · intro name
    rw [hmarker]
    exact takes.inFlight name
  · intro name k other hname hk hother
    have hbusy := h.holds k other name hk hother
    rw [(hmarker name).mp hname, takes.free] at hbusy
    cases hbusy

/-- The poller of an operation that waits again asks after the job of its
transfer. -/
theorem Owned.poller_keep {e : Engine} {id : Nat} {signal : Signal} {r : Registry}
    {op next : Operation} (h : Owned e) (found : e.operations.get? id = some op)
    (goes : op.GoesOn e.registry signal r next) :
    ∀ p, (e.keep id r next).pollers.get? id = some p →
      ∃ c, next.confirmation? = some c ∧ c.job = p.job := by
  intro p hp
  rw [get?_pollers_keep] at hp
  cases goes with
  | approached before after kept =>
      rw [after] at hp
      cases (h.poller_absent found before).symm.trans hp
  | took free after holds unknown takes =>
      rw [after] at hp
      cases (h.poller_absent found (Operation.confirmation?_of_free free)).symm.trans hp
  | accepted before waited ordered kept after handle stage =>
      simp only [after, Option.map_some, stage] at hp
      cases hp
      exact ⟨_, after, rfl⟩
  | continued before after advance kept =>
      rename_i c c'
      rcases Confirmation.advance_eq_continues advance with ⟨_, _, rfl⟩ | ⟨_, _, rfl⟩
      · simp only [after, Option.map_some] at hp
        obtain ⟨c₀, hc₀, hjob⟩ := h.asks id p op hp found
        cases before.symm.trans hc₀
        exact ⟨_, after, hjob⟩
      · simp only [after, Option.map_some] at hp
        obtain ⟨q, hq, rfl⟩ := Option.map_eq_some_iff.mp hp
        obtain ⟨c₀, hc₀, hjob⟩ := h.asks id q op hq found
        cases before.symm.trans hc₀
        exact ⟨_, after, hjob⟩

/-- **Step.**  No step gives a marker to two operations or leaves a poller
behind. -/
theorem Owned.effect {e e' : Engine} {s : Stimulus} {events : List Event} (h : Owned e)
    (heffect : Effect e s e' events) : Owned e' := by
  cases heffect with
  | idle unordered => exact h
  | started start =>
      rename_i r op
      obtain ⟨_, hconfirmation, hjob⟩ := Operation.start_waits start
      have hnext : Owned { e with next := e.next + 1 } := h.of_held rfl (Nat.le_succ _)
      have hpoller : ∀ p,
          (({ e with next := e.next + 1 } : Engine).keep e.next r op).pollers.get? e.next =
            some p → ∃ c, op.confirmation? = some c ∧ c.job = p.job := by
        intro p hp
        rw [get?_pollers_keep, hconfirmation] at hp
        cases h.absent_next.2.symm.trans hp
      rcases hjob with ⟨hjob, rfl⟩ | ⟨job, hjob, htakes⟩
      · have hmarker : op.marker? = none := by
          rw [Operation.marker?_eq, hjob]
          rfl
        exact hnext.keep (Nat.lt_succ_self _) (by simp [hmarker]) (by simp [hmarker]) hpoller
      · exact hnext.keep_takes (Nat.lt_succ_self _) hjob htakes hpoller
  | refused start =>
      obtain ⟨rfl, _⟩ := Operation.start_ends start
      exact h.of_held rfl (Nat.le_succ _)
  | looked =>
      rename_i claim
      exact h.of_held (looked_discover e.registry claim).keeps.2.2 (Nat.le_refl _)
  | wentOn found admits resume =>
      rename_i id signal op next r
      have hgoes := Operation.goesOn_of_resume resume
      have hpoller := h.poller_keep found hgoes
      have hsame : r = e.registry → next.job? = op.job? → Owned (e.keep id r next) := by
        rintro rfl hkept
        have hmarker : next.marker? = op.marker? := by
          rw [Operation.marker?_eq, hkept, Operation.marker?_eq]
        refine h.keep (h.numbered id op found) ?_ ?_ hpoller
        · intro name
          rw [hmarker]
          constructor
          · exact .inr
          · rintro (hmine | hin)
            · exact h.holds id op name found hmine
            · exact hin
        · intro name k other hmine hk hother
          exact h.apart k id other op name hk found hother (hmarker ▸ hmine)
      cases hgoes with
      | approached before after kept => exact hsame rfl kept
      | took free after holds unknown takes =>
          exact h.keep_takes (h.numbered id op found) holds takes hpoller
      | accepted before waited ordered kept after handle stage => exact hsame rfl kept
      | continued before after advance kept => exact hsame rfl kept
  | ended found admits resume =>
      rename_i id signal op r outcome
      obtain ⟨_, hheld⟩ := (Operation.ends_of_resume resume).volumes_held
      have hregistry : Owned { e with registry := r } := h.of_held hheld (Nat.le_refl _)
      exact hregistry.remove found
  | dropped found => exact h.remove found
  | heard found asking live =>
      rename_i id p status
      have hpoller := h.of_poller found (p.job_advance (.answered (.ok status))).1
        (p.cancelled_advance _)
      exact hpoller.of_held (Registry.snapshots_held_record e.registry p.job status).2
        (Nat.le_refl _)
  | unheard found asking live =>
      exact h.of_poller found (Poller.job_advance _ _).1 (Poller.cancelled_advance _ _)
  | unserved found =>
      exact h.of_poller found (Poller.job_advance _ _).1 (Poller.cancelled_advance _ _)

/-- **Run.**  Every engine that is reached from a registry is owned. -/
theorem owned_trace {r : Registry} {stimuli : List Stimulus} {e : Engine} {events : List Event}
    (h : Trace r stimuli e events) : Owned e := by
  induction h with
  | start => exact owned_ofRegistry r
  | step before s ih => exact ih.effect (effect_step _ s)

end Engine

end SnapshotEngine
