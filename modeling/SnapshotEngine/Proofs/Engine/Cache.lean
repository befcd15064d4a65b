import SnapshotEngine.Proofs.Engine.Calls
import SnapshotEngine.Proofs.Engine.Provenance

/-!
# What is kept under an identifier

An identifier gets a snapshot as a backup of that identifier is confirmed, and loses it
as a removal of it ends well.  No other end of an operation, and nothing that happens
before the end, reaches it.  So it can be read off the events, from the last of the
two kinds, whether there is a snapshot.

* `Removed` — an identifier of which a removal has ended well;
* `Effect.cache` — what a step does to one identifier;
* `snapshot?_run` — a run in which no backup of the identifier is confirmed;
* `snapshot?_iff_confirmed` — any run.
-/

namespace SnapshotEngine

/-- A removal of an identifier has ended well. -/
def Removed (orders : List (Settings × Order)) (id : String) (events : List Event) : Prop :=
  ∃ j settings, orders[j]? = some (settings, .removal id) ∧ .ended j (.ok .deleted) ∈ events

namespace Removed

variable {orders : List (Settings × Order)} {id : String} {past later : List Event}

theorem append_iff : Removed orders id (past ++ later) ↔
    Removed orders id past ∨ Removed orders id later := by
  constructor
  · rintro ⟨j, settings, horder, hmem⟩
    rcases List.mem_append.mp hmem with hpast | hlater
    · exact .inl ⟨j, settings, horder, hpast⟩
    · exact .inr ⟨j, settings, horder, hlater⟩
  · rintro (⟨j, settings, horder, hmem⟩ | ⟨j, settings, horder, hmem⟩)
    · exact ⟨j, settings, horder, List.mem_append_left later hmem⟩
    · exact ⟨j, settings, horder, List.mem_append_right past hmem⟩

/-- Orders that are placed later have not ended before. -/
theorem orders_append_iff (more : List (Settings × Order))
    (hnumber : ∀ event ∈ past, ∀ k, event.number? = some k → k < orders.length) :
    Removed (orders ++ more) id past ↔ Removed orders id past := by
  constructor
  · rintro ⟨j, settings, horder, hmem⟩
    have hj := hnumber _ hmem j rfl
    exact ⟨j, settings, (List.getElem?_append_left hj).symm.trans horder, hmem⟩
  · rintro ⟨j, settings, horder, hmem⟩
    have hj := (List.getElem?_eq_some_iff.mp horder).1
    exact ⟨j, settings, (List.getElem?_append_left hj).trans horder, hmem⟩

end Removed

namespace Engine

/-- A removal that ends well has had its object deleted, and forgets its snapshot. -/
theorem Effect.of_deleted {e e' : Engine} {s : Stimulus} {events : List Event} {j : Nat}
    (h : Effect e s e' events) (hmem : .ended j (.ok .deleted) ∈ events) :
    ∃ d sn, e.operations.get? j = some (.removal d) ∧ d.stage = .erasing sn ∧
      .answered j (.move .delete (d.object sn)) (.moved true) ∈ events ∧
      e'.registry.snapshots = e.registry.snapshots.erase d.snapshotId := by
  cases h with
  | started start => exact absurd hmem (not_mem_callEvents fun _ heq => by cases heq)
  | refused start =>
      obtain ⟨_, cause, rfl, _⟩ := Operation.start_ends start
      simp at hmem
  | wentOn found admits resume =>
      rcases List.mem_append.mp hmem with hmem | hmem
      · exact absurd hmem (not_mem_answerEvents fun _ _ heq => by cases heq)
      · exact absurd hmem (not_mem_callEvents fun _ heq => by cases heq)
  | ended found admits resume =>
      rcases List.mem_append.mp hmem with hmem | hmem
      · exact absurd hmem (not_mem_answerEvents fun _ _ heq => by cases heq)
      rw [List.mem_singleton] at hmem
      cases hmem
      cases Operation.ends_of_resume resume with
      | deleted stage =>
          rename_i d sn
          have hcall : (Operation.removal d).call? = some (.move .delete (d.object sn)) := by
            simp only [Operation.call?, Removal.call?, stage]
          exact ⟨d, sn, found, stage, by simp [answerEvents, hcall], snapshots_remove ..⟩
  | _ => simp at hmem

/-- What a step does to the snapshot that is kept under an identifier. -/
inductive CacheEffect (orders : List (Settings × Order)) (e e' : Engine) (events : List Event)
    (id : String) : Prop where
  | same (kept : e'.registry.snapshot? id = e.registry.snapshot? id)
      (unconfirmed : ∀ k, .ended k (.ok (.backedUp id)) ∉ events)
      (unremoved : ¬ Removed orders id events)
  | confirmed {k : Nat} {b : Backup} (found : e.operations.get? k = some (.backup b))
      (kept : e'.registry.snapshot? id = some b.snapshot)
      (only : events = [.ended k (.ok (.backedUp id))])
  | removed (gone : e'.registry.snapshot? id = none) (removed : Removed orders id events)
      (unconfirmed : ∀ k, .ended k (.ok (.backedUp id)) ∉ events)

/-- **Step.** -/
theorem Effect.cache {orders : List (Settings × Order)} {e e' : Engine} {s : Stimulus}
    {past events : List Event} (h : Effect e s e' events) (hserving : Serving orders e past)
    (id : String) : CacheEffect (orders ++ s.order?.toList) e e' events id := by
  have hplaced : ∀ k d, e.operations.get? k = some (.removal d) →
      (orders ++ s.order?.toList)[k]? = some (d.settings, .removal d.snapshotId) := by
    intro k d found
    obtain ⟨settings, order, horder, hserves⟩ := hserving.serves k _ found
    obtain ⟨rfl, rfl⟩ := hserves.of_removal
    have hk := (List.getElem?_eq_some_iff.mp horder).1
    exact (List.getElem?_append_left hk).trans horder
  by_cases hremoved : Removed (orders ++ s.order?.toList) id events
  · obtain ⟨j, settings, horder, hmem⟩ := hremoved
    obtain ⟨d, sn, found, _, _, hsnapshots⟩ := h.of_deleted hmem
    cases horder.symm.trans (hplaced j d found)
    have hgone : e'.registry.snapshot? d.snapshotId = none := by
      unfold Registry.snapshot?
      rw [hsnapshots, Table.get?_erase, if_pos rfl]
    refine .removed hgone ⟨j, _, horder, hmem⟩ fun k hconfirmed => ?_
    obtain ⟨_, b, c, found', _, _, _, honly, _⟩ := h.of_backedUp hconfirmed
    rw [honly, List.mem_singleton] at hmem
    cases hmem
  · have hkept : ∀ id', e'.registry.snapshots = e.registry.snapshots.erase id' → id' ≠ id →
        e'.registry.snapshot? id = e.registry.snapshot? id := by
      intro id' hsnapshots hne
      unfold Registry.snapshot?
      rw [hsnapshots, Table.get?_erase, if_neg hne]
    cases h.snapshots with
    | kept same unconfirmed =>
        refine .same ?_ (fun k => unconfirmed k id) hremoved
        unfold Registry.snapshot?
        rw [same]
    | removed found stage snapshots unconfirmed ended =>
        refine .same (hkept _ snapshots ?_) (fun k => unconfirmed k id) hremoved
        rintro rfl
        exact hremoved ⟨_, _, hplaced _ _ found, ended⟩
    | inserted found stage settled snapshots =>
        rename_i k b c
        have hlookup : e'.registry.snapshot? id =
            if b.snapshotId = id then some b.snapshot else e.registry.snapshot? id := by
          unfold Registry.snapshot?
          rw [snapshots, Table.get?_insert]
        by_cases hid : b.snapshotId = id
        · rw [if_pos hid] at hlookup
          exact .confirmed found hlookup (by rw [hid])
        · rw [if_neg hid] at hlookup
          refine .same hlookup (fun k hmem => ?_) hremoved
          rw [List.mem_singleton] at hmem
          cases hmem
          exact hid rfl

/-- Whatever was seen in a run is about an order that was placed in it. -/
theorem Trace.number_lt_orders {r : Registry} {stimuli : List Stimulus} {e : Engine}
    {events : List Event} (h : Trace r stimuli e events) :
    ∀ event ∈ events, ∀ k, event.number? = some k → k < (ordersOf stimuli).length := by
  intro event hmem k hnumber
  rw [← (serving_trace h).placed]
  exact h.number_lt hmem hnumber

/-- **Run.**  As long as no backup of an identifier is confirmed, its snapshot stays until
a removal of it has ended well, and is gone from then on. -/
theorem snapshot?_run {r : Registry} {first rest : List Stimulus} {id : String}
    (hquiet : ∀ k, .ended k (.ok (.backedUp id)) ∉ (((ofRegistry r).run first).1.run rest).2) :
    let e := ((ofRegistry r).run first).1
    (Removed (ordersOf (first ++ rest)) id (e.run rest).2 →
      (e.run rest).1.registry.snapshot? id = none) ∧
    (¬ Removed (ordersOf (first ++ rest)) id (e.run rest).2 →
      (e.run rest).1.registry.snapshot? id = e.registry.snapshot? id) := by
  intro e
  induction rest using List.reverseRecOn with
  | nil => exact ⟨fun ⟨_, _, _, hmem⟩ => absurd hmem List.not_mem_nil, fun _ => rfl⟩
  | append_singleton rest s ih =>
      rw [run_concat] at hquiet ⊢
      obtain ⟨hgone, hsame⟩ := ih fun k hmem => hquiet k (List.mem_append_left _ hmem)
      have htrace := trace_run r (first ++ rest)
      rw [run_append] at htrace
      have hnumber := htrace.number_lt_orders
      rw [← List.append_assoc, ordersOf_concat, Removed.append_iff, Removed.orders_append_iff _
        fun event hmem => hnumber event (List.mem_append_right _ hmem)]
      cases (effect_step _ s).cache (serving_trace htrace) id with
      | same kept unconfirmed unremoved =>
          rw [or_iff_left unremoved, kept]
          exact ⟨hgone, hsame⟩
      | confirmed found kept only =>
          rename_i k b
          have hnow : .ended k (.ok (.backedUp id)) ∈ ((e.run rest).1.step s).2 := by simp [e, only]
          exact absurd (List.mem_append_right _ hnow) (hquiet k)
      | removed gone removed unconfirmed =>
          exact ⟨fun _ => gone, fun hnot => absurd (.inr removed) hnot⟩

/-- **Run.**  An identifier has a snapshot exactly if a backup of it was confirmed and no
removal of it has ended well since. -/
theorem snapshot?_iff_confirmed {r : Registry} {stimuli : List Stimulus} {e : Engine}
    {events : List Event} (h : Trace r stimuli e events) (hempty : ∀ id, r.snapshot? id = none)
    (id : String) :
    (∃ sn, e.registry.snapshot? id = some sn) ↔
      ∃ past k later, events = past ++ .ended k (.ok (.backedUp id)) :: later ∧
        ¬ Removed (ordersOf stimuli) id later := by
  induction h with
  | start =>
      constructor
      · rintro ⟨sn, hsn⟩
        cases (hempty id).symm.trans hsn
      · rintro ⟨past, k, later, heq, _⟩
        simp at heq
  | step before s ih =>
      rename_i stimuli e events
      have hnumber := before.number_lt_orders
      rw [ordersOf_concat]
      -- A confirmation that this step does not bring was seen before it.
      have hearly : ∀ {past later k}, (∀ k, .ended k (.ok (.backedUp id)) ∉ (e.step s).2) →
          events ++ (e.step s).2 = past ++ .ended k (.ok (.backedUp id)) :: later →
            ∃ middle, events = past ++ .ended k (.ok (.backedUp id)) :: middle ∧
              later = middle ++ (e.step s).2 := by
        intro past later k hnone heq
        rcases List.append_eq_append_iff.mp heq with ⟨seen, _, hnow⟩ | ⟨middle, hevents, hlater⟩
        · exact absurd (hnow ▸ by simp) (hnone k)
        · cases middle with
          | nil =>
              rw [List.nil_append] at hlater
              exact absurd (hlater ▸ List.mem_cons_self ..) (hnone k)
          | cons event middle =>
              obtain ⟨rfl, rfl⟩ := List.cons.inj hlater
              exact ⟨middle, hevents, rfl⟩
      cases (effect_step e s).cache (serving_trace before) id with
      | same kept unconfirmed unremoved =>
          rw [kept, ih]
          constructor
          · rintro ⟨past, k, later, rfl, hkept⟩
            refine ⟨past, k, later ++ (e.step s).2, by simp, ?_⟩
            rw [Removed.append_iff, or_iff_left unremoved, Removed.orders_append_iff]
            · exact hkept
            · exact fun event hmem => hnumber event (by simp [hmem])
          · rintro ⟨past, k, later, heq, hkept⟩
            obtain ⟨middle, rfl, rfl⟩ := hearly unconfirmed heq
            refine ⟨past, k, middle, rfl, fun hremoved => hkept (Removed.append_iff.mpr (.inl ?_))⟩
            exact (Removed.orders_append_iff _ fun event hmem => hnumber event (by simp [hmem])).mpr
              hremoved
      | confirmed found kept only =>
          refine iff_of_true ⟨_, kept⟩ ⟨events, _, [], by rw [only], ?_⟩
          rintro ⟨_, _, _, hmem⟩
          cases hmem
      | removed gone removed unconfirmed =>
          refine iff_of_false (fun ⟨sn, hsn⟩ => ?_) ?_
          · cases gone.symm.trans hsn
          · rintro ⟨past, k, later, heq, hkept⟩
            obtain ⟨middle, _, rfl⟩ := hearly unconfirmed heq
            exact hkept (Removed.append_iff.mpr (.inr removed))

end Engine

end SnapshotEngine
