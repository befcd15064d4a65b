import SnapshotEngine.Proofs.Depot.Moved

/-!
# When an object is there

An object that a backup in progress has uploaded can go in one way only: a removal
deletes it.  Nobody else deletes anything, and nobody else uploads that object.

* `Erased` — the object of such a backup is there unless it was deleted since;
* `erased_trace` — which is so at all times.
-/

namespace SnapshotEngine

namespace Depot

/-- What is arranged with a store does not change its objects, if it fits. -/
theorem objects_cue_of_fits {namer : ObjectNamer} {cue : StoreCue}
    (h : (Stimulus.toStore cue).fits namer) (store : MemoryStore) :
    (store.cue cue).objects = store.objects := by
  cases cue with
  | insert object => cases h
  | _ => rfl

/-- A transfer that has arrived has not moved anything yet. -/
theorem objects_arrive (store : MemoryStore) (object : String) (action : TransferAction) :
    (store.arrive object action).objects = store.objects := by
  cases action <;> rfl

/-- The object of a backup that has uploaded it is there unless it was deleted
since. -/
def Erased (d : Depot) (events : List Event) : Prop :=
  ∀ k b c, d.engine.operations.get? k = some (.backup b) → b.stage = .confirming c →
    c.stage ≠ .transferring → (b.object ∈ d.store.objects ↔ ¬ ErasedSince k b.object events)

/-- **Step**, in which no transfer comes to an end. -/
theorem Erased.stepped {d : Depot} {s : SnapshotEngine.Stimulus} {e' : Engine}
    {past events : List Event} (h : Erased d past) (heffect : d.engine.Effect s e' events)
    (other : d.transfer? s = none) (hquiet : ∀ j object, .moved j .delete object ∉ events) :
    Erased ⟨e', d.store⟩ (past ++ events) := by
  intro k b c hop hstage hover
  rw [erasedSince_append_iff fun j => hquiet j b.object]
  cases heffect.operation hop with
  | started number registry start =>
      have hnone := (Operation.start_waits start).2.1
      simp [Operation.confirmation?, hstage] at hnone
  | kept found unanswered => exact h k b c found hstage hover
  | wentOn found registry resume =>
      obtain ⟨b₀, rfl, hgoes⟩ := Operation.backup_of_resume resume
      cases hgoes with
      | preserved stage => cases hstage
      | accepted stage =>
          cases hstage
          exact absurd rfl hover
      | continued stage advance =>
          rename_i c₀ c'
          cases hstage
          rcases Confirmation.advance_eq_continues advance with ⟨rfl, hmoving, _⟩ | ⟨_, hwaits, _⟩
          · have hc₀ : (Operation.backup b₀).confirmation? = some c₀ := by
              simp only [Operation.confirmation?, stage]
            have hcall := Operation.call?_of_transferring hc₀ hmoving
            simp [transfer?, found, hcall] at other
          · exact h k b₀ c₀ found stage (by simp [hwaits])

/-- What is deleted as a transfer ends is an object that was to be deleted. -/
theorem not_deleted_of_moved {action : TransferAction} {object other : String} {done : Bool}
    {events : List Event}
    (hmoved : ∀ j action' object', .moved j action' object' ∈ events →
      action' = action ∧ object' = object ∧ done = true)
    (h : action ≠ .delete ∨ object ≠ other ∨ done = false) (j : Nat) :
    .moved j .delete other ∉ events := by
  intro hmem
  obtain ⟨rfl, rfl, rfl⟩ := hmoved j _ _ hmem
  simp at h

/-- The object of a backup is there as its upload ends. -/
theorem Known.erased_of_upload {namer : ObjectNamer} {d : Depot} {id : Nat} {b : Backup}
    {c : Confirmation} {store : MemoryStore} {past events : List Event}
    (h : Known namer d past) (found : d.engine.operations.get? id = some (.backup b))
    (stage : b.stage = .confirming c) (hmoving : c.stage = .transferring)
    (move : d.store.move b.object .upload = some (true, store))
    (hquiet : ∀ j, .moved j .delete b.object ∉ events) :
    b.object ∈ store.objects ↔ ¬ ErasedSince id b.object (past ++ events) := by
  refine iff_of_true ((MemoryStore.mem_objects_upload move b.object).mpr (.inl rfl)) ?_
  rw [erasedSince_append_iff hquiet]
  intro herased
  obtain ⟨_, c₁, hc₁, hover₁⟩ := h.uploads.uploaded id b _ found herased.uploaded
  cases stage.symm.trans hc₁
  exact hover₁ hmoving

/-- A transfer that another operation waits for takes the object of a backup away
only if it deletes that object. -/
theorem Known.erased_of_other {namer : ObjectNamer} {d : Depot} {id k : Nat} {op : Operation}
    {b : Backup} {c : Confirmation} {action : TransferAction} {object : String} {done : Bool}
    {store : MemoryStore} {past events : List Event} (h : Known namer d past)
    (found : d.engine.operations.get? id = some op) (call : op.call? = some (.move action object))
    (move : d.store.move object action = some (done, store))
    (found' : d.engine.operations.get? k = some (.backup b)) (stage : b.stage = .confirming c)
    (hover : c.stage ≠ .transferring)
    (hmoved : ∀ j action' object', .moved j action' object' ∈ events →
      action' = action ∧ object' = object ∧ done = true)
    (herases : action = .delete → done = true → .moved id .delete object ∈ events)
    (hbefore : b.object ∈ d.store.objects ↔ ¬ ErasedSince k b.object past) :
    b.object ∈ store.objects ↔ ¬ ErasedSince k b.object (past ++ events) := by
  have hquiet := @not_deleted_of_moved _ _ b.object _ _ hmoved
  cases done with
  | false =>
      rw [erasedSince_append_iff (hquiet (.inr (.inr rfl))), MemoryStore.eq_of_move_false move]
      exact hbefore
  | true =>
      cases action with
      | upload =>
          have hne : k ≠ id := by
            rintro rfl
            cases found.symm.trans found'
            rw [call?_of_over stage hover] at call
            cases call
          rw [erasedSince_append_iff (hquiet (.inl nofun)), ← hbefore]
          refine (MemoryStore.mem_objects_upload move b.object).trans ?_
          obtain ⟨b', rfl, rfl⟩ := h.backup_of_upload found call
          exact or_iff_right (h.object_ne found' found hne)
      | download =>
          rw [erasedSince_append_iff (hquiet (.inl nofun)), ← hbefore,
            (MemoryStore.mem_objects_download move).2]
      | delete =>
          have hdeleted := MemoryStore.mem_objects_delete move b.object
          by_cases hobject : b.object = object
          · have huploaded := h.uploaded found' stage hover
            have herased : ErasedSince k b.object (past ++ events) :=
              erasedSince_append huploaded (hobject ▸ herases rfl rfl)
            exact iff_of_false (fun hmem => (hdeleted.mp hmem).1 hobject)
              (fun hnot => hnot herased)
          · rw [erasedSince_append_iff (hquiet (.inr (.inl (Ne.symm hobject)))), ← hbefore]
            exact hdeleted.trans (and_iff_right hobject)

/-- **Step**, in which a transfer comes to an end. -/
theorem Erased.moved {namer : ObjectNamer} {d : Depot} {id : Nat} {op : Operation}
    {action : TransferAction} {object : String} {done : Bool} {store : MemoryStore} {e' : Engine}
    {past events : List Event} (h : Erased d past) (hknown : Known namer d past)
    (found : d.engine.operations.get? id = some op)
    (call : op.call? = some (.move action object))
    (move : d.store.move object action = some (done, store))
    (heffect : d.engine.Effect (.signalled id (.answered (.moved done))) e' events)
    (hmoved : ∀ j action' object', .moved j action' object' ∈ events →
      action' = action ∧ object' = object ∧ done = true)
    (herases : action = .delete → done = true → .moved id .delete object ∈ events) :
    Erased ⟨e', store⟩ (past ++ events) := by
  intro k b c hop hstage hover
  cases heffect.operation hop with
  | kept found' unanswered =>
      exact hknown.erased_of_other found call move found' hstage hover hmoved herases
        (h k b c found' hstage hover)
  | wentOn found' registry resume =>
      obtain ⟨b₀, rfl, hgoes⟩ := Operation.backup_of_resume resume
      cases found.symm.trans found'
      cases hgoes with
      | continued stage advance =>
          cases hstage
          rcases Confirmation.advance_eq_continues advance with ⟨hsignal, hmoving, _⟩ | ⟨hsignal, _⟩
          · cases hsignal
            obtain ⟨hc₀, haction, hobject⟩ := hknown.transfer_eq found stage
            have hcall := Operation.call?_of_transferring hc₀ hmoving
            rw [haction, hobject] at hcall
            cases call.symm.trans hcall
            have hown := hknown.erased_of_upload found stage hmoving move
              (not_deleted_of_moved hmoved (.inl nofun))
            exact hown
          · cases hsignal

/-- **Step.** -/
theorem Erased.effect {namer : ObjectNamer} {d d' : Depot} {s : Stimulus}
    {past events : List Event} (h : Erased d past) (hknown : Known namer d past)
    (heffect : Effect d s d' events) (hfits : s.fits namer) : Erased d' (past ++ events) := by
  cases heffect with
  | arranged =>
      intro k b c hop hstage hover
      rw [objects_cue_of_fits hfits, List.append_nil]
      exact h k b c hop hstage hover
  | arrived =>
      intro k b c hop hstage hover
      rw [objects_arrive, List.append_nil]
      exact h k b c hop hstage hover
  | waiting =>
      rw [List.append_nil]
      exact h
  | stepped other =>
      exact h.stepped (Engine.effect_step _ _) other fun j => not_moved_of_other other j .delete
  | moved found call move =>
      rename_i id op action object done store
      refine h.moved hknown found call move (Engine.effect_step _ _) ?_ ?_
      · intro j action' object' hmem
        exact eq_of_moved found call hmem
      · rintro rfl rfl
        obtain ⟨x, sn, rfl, hstage, rfl⟩ := hknown.removal_of_delete found call
        exact (erases_of_call found hstage).1

/-- **Run.** -/
theorem erased_trace {namer : ObjectNamer} {r : Registry} {store : MemoryStore}
    {stimuli : List Stimulus} {d : Depot} {events : List Event}
    (h : Trace r store stimuli d events) (hempty : ∀ id, r.snapshot? id = none)
    (hfits : ∀ s ∈ stimuli, s.fits namer) : Erased d events := by
  induction h with
  | start =>
      intro k b c hop
      cases hop
  | step before s ih =>
      have hpast := fun t ht => hfits t (List.mem_append_left _ ht)
      exact (ih hpast).effect (known_trace before hempty hpast) (effect_step _ s)
        (hfits s (by simp))

end Depot

end SnapshotEngine
