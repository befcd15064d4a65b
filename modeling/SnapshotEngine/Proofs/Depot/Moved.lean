import SnapshotEngine.Proofs.Depot.Run

/-!
# Which objects were moved

The events of a run tell which operation has uploaded which object, and which was
deleted later.  A backup uploads the object of its snapshot and nothing else, once,
and as long as it is in progress no other backup shares that object.

* `ErasedSince` — an object that was deleted after it was uploaded;
* `uploads_trace` — who has uploaded what;
* `known_trace` — what is known of an engine in a depot at any time;
* `Known.backup_of_upload`, `Known.removal_of_delete` — whose transfer is whose.
-/

namespace SnapshotEngine

/-- An object that was moved. -/
abbrev Event.moved (id : Nat) (action : TransferAction) (object : String) : Event :=
  .answered id (.move action object) (.moved true)

/-- After an operation has uploaded an object, somebody has deleted it. -/
def ErasedSince (id : Nat) (object : String) (events : List Event) : Prop :=
  ∃ other, [.moved id .upload object, .moved other .delete object].Sublist events

/-- If the last of some events comes early, all of them do. -/
theorem sublist_of_not_mem {first second front : List Event} {last : Event}
    (h : (front ++ [last]).Sublist (first ++ second)) (hlast : last ∉ second) :
    (front ++ [last]).Sublist first := by
  obtain ⟨early, late, heq, hearly, hlate⟩ := List.sublist_append_iff.mp h
  rcases List.eq_nil_or_concat' late with rfl | ⟨late, event, rfl⟩
  · rw [heq, List.append_nil]
    exact hearly
  · rw [← List.append_assoc] at heq
    obtain ⟨_, hevent⟩ := List.append_inj' heq rfl
    cases hevent
    exact absurd (hlate.subset (by simp)) hlast

theorem ErasedSince.uploaded {id : Nat} {object : String} {events : List Event}
    (h : ErasedSince id object events) : .moved id .upload object ∈ events := by
  obtain ⟨_, hsub⟩ := h
  exact hsub.subset (by simp)

/-- Whatever does not delete an object leaves it as it was. -/
theorem erasedSince_append_iff {id : Nat} {object : String} {past later : List Event}
    (h : ∀ other, .moved other .delete object ∉ later) :
    ErasedSince id object (past ++ later) ↔ ErasedSince id object past := by
  constructor
  · rintro ⟨other, hsub⟩
    exact ⟨other, @sublist_of_not_mem past later [.moved id .upload object] _ hsub (h other)⟩
  · rintro ⟨other, hsub⟩
    exact ⟨other, hsub.trans (List.sublist_append_left past later)⟩

/-- An object that was uploaded and is deleted now. -/
theorem erasedSince_append {id other : Nat} {object : String} {past later : List Event}
    (huploaded : .moved id .upload object ∈ past) (hdeleted : .moved other .delete object ∈ later) :
    ErasedSince id object (past ++ later) :=
  ⟨other, (List.singleton_sublist.mpr huploaded).append (List.singleton_sublist.mpr hdeleted)⟩

namespace Engine

/-- Who has uploaded what: answers reach only operations that were started, and a
backup that has uploaded something has uploaded its object, and is past that. -/
structure Uploads (e : Engine) (events : List Event) : Prop where
  numbered : ∀ id call answer, .answered id call answer ∈ events → id < e.next
  uploaded : ∀ id b object, e.operations.get? id = some (.backup b) →
    .moved id .upload object ∈ events →
      object = b.object ∧ ∃ c, b.stage = .confirming c ∧ c.stage ≠ .transferring

/-- **Step.** -/
theorem Uploads.effect {orders : List (Settings × Order)} {e e' : Engine} {s : Stimulus}
    {past events : List Event} (h : Uploads e past) (hown : Owned e)
    (hserving : Serving orders e past) (heffect : Effect e s e' events) :
    Uploads e' (past ++ events) where
  numbered id call answer hmem := by
    refine Nat.lt_of_lt_of_le ?_ heffect.next_le
    rcases List.mem_append.mp hmem with hpast | hnow
    · exact h.numbered id call answer hpast
    · obtain ⟨_, op, found, _⟩ := heffect.of_answered hnow
      exact hown.numbered id op found
  uploaded id b object hop hmem := by
    have hnow : .moved id .upload object ∈ events → s = .signalled id (.answered (.moved true)) ∧
        ∃ op, e.operations.get? id = some op ∧ op.call? = some (.move .upload object) :=
      heffect.of_answered
    cases heffect.operation hop with
    | started number registry start =>
        rcases List.mem_append.mp hmem with hpast | hlate
        · exact absurd (number ▸ h.numbered id _ _ hpast) (Nat.lt_irrefl _)
        · cases (hnow hlate).1
    | kept found unanswered =>
        rcases List.mem_append.mp hmem with hpast | hlate
        · exact h.uploaded id b object found hpast
        · exact absurd hlate (unanswered _ _)
    | wentOn found registry resume =>
        obtain ⟨b₀, rfl, hgoes⟩ := Operation.backup_of_resume resume
        cases hgoes with
        | preserved stage =>
            rcases List.mem_append.mp hmem with hpast | hlate
            · obtain ⟨_, c, hc, _⟩ := h.uploaded id b₀ object found hpast
              cases stage.symm.trans hc
            · cases (hnow hlate).1
        | accepted stage =>
            rcases List.mem_append.mp hmem with hpast | hlate
            · obtain ⟨_, c, hc, _⟩ := h.uploaded id b₀ object found hpast
              cases stage.symm.trans hc
            · cases (hnow hlate).1
        | continued stage advance =>
            rename_i c c'
            have hover : c'.stage ≠ .transferring := by
              rcases Confirmation.advance_eq_continues advance with ⟨_, _, rfl⟩ | ⟨_, _, rfl⟩ <;>
                simp
            refine ⟨?_, c', rfl, hover⟩
            rcases List.mem_append.mp hmem with hpast | hlate
            · exact (h.uploaded id b₀ object found hpast).1
            · obtain ⟨_, op, hop, hcall⟩ := hnow hlate
              cases found.symm.trans hop
              rcases Operation.of_call?_move hcall with ⟨c₀, hc₀, _, _, hobject⟩ | ⟨_, _, heq, _⟩
              · have hmoves := hserving.moves id _ found c₀ hc₀
                rw [← hobject]
                exact (Prod.mk.inj (Option.some.inj hmoves)).2.symm
              · cases heq

/-- **Run.** -/
theorem uploads_trace {r : Registry} {stimuli : List Stimulus} {e : Engine}
    {events : List Event} (h : Trace r stimuli e events) : Uploads e events := by
  induction h with
  | start =>
      have hnone : ∀ id, (ofRegistry r).operations.get? id = none := fun _ => rfl
      exact ⟨by simp, by simp [hnone]⟩
  | step before s ih =>
      exact ih.effect (owned_trace before) (serving_trace before) (effect_step _ s)

end Engine

namespace Depot

/-- Whether a stimulus fits an orchestrator that names its objects in one way: the
orders go by that, no volume has a slash in its name, and objects reach the store
by uploads only. -/
def Stimulus.fits (namer : ObjectNamer) : Stimulus → Bool
  | .toEngine (.ordered settings order) => decide (settings.namer = namer) && order.isFlat
  | .toEngine _ => true
  | .toStore (.insert _) => false
  | .toStore _ | .arrived _ _ => true

/-- What is known of an engine in a depot in the course of a run. -/
structure Known (namer : ObjectNamer) (d : Depot) (events : List Event) : Prop where
  owned : d.engine.Owned
  serving : ∃ orders, d.engine.Serving orders events
  uploads : d.engine.Uploads events
  named : d.engine.Named namer

theorem known_trace {namer : ObjectNamer} {r : Registry} {store : MemoryStore}
    {stimuli : List Stimulus} {d : Depot} {events : List Event}
    (h : Trace r store stimuli d events) (hempty : ∀ id, r.snapshot? id = none)
    (hfits : ∀ s ∈ stimuli, s.fits namer) : Known namer d events := by
  obtain ⟨performed, htrace, horders⟩ := h.engine
  refine ⟨Engine.owned_trace htrace, ⟨_, Engine.serving_trace htrace⟩,
    Engine.uploads_trace htrace, Engine.named_trace htrace hempty ?_⟩
  intro settings order hmem
  have hfit := hfits _ (horders settings order hmem)
  simpa [Stimulus.fits] using hfit

/-- No object is moved unless a transfer comes to an end. -/
theorem not_moved_of_other {d : Depot} {s : SnapshotEngine.Stimulus} (other : d.transfer? s = none)
    (id : Nat) (action : TransferAction) (object : String) :
    .moved id action object ∉ (d.engine.step s).2 := by
  intro hmem
  obtain ⟨rfl, op, found, hcall⟩ := (Engine.effect_step d.engine s).of_answered hmem
  simp [transfer?, found, hcall] at other

/-- What is moved as a transfer comes to an end is the object of that transfer. -/
theorem eq_of_moved {e : Engine} {id other : Nat} {op : Operation} {action action' : TransferAction}
    {object object' : String} {done : Bool} (found : e.operations.get? id = some op)
    (call : op.call? = some (.move action object))
    (hmem : .moved other action' object' ∈ (e.step (.signalled id (.answered (.moved done)))).2) :
    action' = action ∧ object' = object ∧ done = true := by
  obtain ⟨hs, op', hop, hcall⟩ := (Engine.effect_step e _).of_answered hmem
  cases hs
  cases found.symm.trans hop
  cases call.symm.trans hcall
  exact ⟨rfl, rfl, rfl⟩

/-- A backup that is past its transfer waits for no call. -/
theorem call?_of_over {b : Backup} {c : Confirmation} (stage : b.stage = .confirming c)
    (hmoved : c.stage ≠ .transferring) : (Operation.backup b).call? = none := by
  simp only [Operation.call?, Backup.call?, stage, Confirmation.call?]
  cases hstage : c.stage with
  | transferring => exact absurd hstage hmoved
  | settling => rfl
  | joining => rfl

/-- Two backups in progress have two objects. -/
theorem Known.object_ne {namer : ObjectNamer} {d : Depot} {events : List Event} {i j : Nat}
    {b b' : Backup} (h : Known namer d events)
    (found : d.engine.operations.get? i = some (.backup b))
    (found' : d.engine.operations.get? j = some (.backup b')) (hne : i ≠ j) :
    b.object ≠ b'.object := by
  intro heq
  obtain ⟨hnamer, hnames⟩ := h.named.backups i b found
  obtain ⟨hnamer', hnames'⟩ := h.named.backups j b' found'
  unfold Backup.object at heq
  rw [hnamer, hnamer'] at heq
  obtain ⟨hvolume, _⟩ := Snapshot.eq_of_objectName hnames hnames' heq
  exact hne (h.owned.apart i j _ _ b.volumeId found found' rfl (congrArg some hvolume.symm))

/-- An upload is that of a backup. -/
theorem Known.backup_of_upload {namer : ObjectNamer} {d : Depot} {events : List Event} {id : Nat}
    {op : Operation} {object : String} (h : Known namer d events)
    (found : d.engine.operations.get? id = some op)
    (call : op.call? = some (.move .upload object)) :
    ∃ b, op = .backup b ∧ object = b.object := by
  obtain ⟨orders, hserving⟩ := h.serving
  rcases Operation.of_call?_move call with ⟨c, hc, _, haction, hobject⟩ | ⟨_, _, _, _, haction, _⟩
  · have hmoves := hserving.moves id op found c hc
    rw [haction, hobject] at hmoves
    cases op with
    | backup b => exact ⟨b, rfl, (Prod.mk.inj (Option.some.inj hmoves)).2.symm⟩
    | restore t => cases hmoves
    | removal x => cases hmoves
  · cases haction

/-- A deletion is that of a removal. -/
theorem Known.removal_of_delete {namer : ObjectNamer} {d : Depot} {events : List Event} {id : Nat}
    {op : Operation} {object : String} (h : Known namer d events)
    (found : d.engine.operations.get? id = some op)
    (call : op.call? = some (.move .delete object)) :
    ∃ x s, op = .removal x ∧ x.stage = .erasing s ∧ object = x.object s := by
  obtain ⟨orders, hserving⟩ := h.serving
  rcases Operation.of_call?_move call with ⟨c, hc, _, haction, _⟩ | ⟨x, s, hop, hstage, _, hobject⟩
  · have hmoves := hserving.moves id op found c hc
    rw [haction] at hmoves
    cases op <;> cases hmoves
  · exact ⟨x, s, hop, hstage, hobject⟩

/-- The transfer of a backup is the upload of its object. -/
theorem Known.transfer_eq {namer : ObjectNamer} {d : Depot} {events : List Event} {id : Nat}
    {b : Backup} {c : Confirmation} (h : Known namer d events)
    (found : d.engine.operations.get? id = some (.backup b)) (stage : b.stage = .confirming c) :
    (Operation.backup b).confirmation? = some c ∧ c.action = .upload ∧ c.object = b.object := by
  obtain ⟨orders, hserving⟩ := h.serving
  have hc : (Operation.backup b).confirmation? = some c := by
    simp only [Operation.confirmation?, stage]
  obtain ⟨haction, hobject⟩ := Prod.mk.inj (Option.some.inj (hserving.moves id _ found c hc))
  exact ⟨hc, haction.symm, hobject.symm⟩

/-- A backup that is past its transfer has uploaded its object. -/
theorem Known.uploaded {namer : ObjectNamer} {d : Depot} {events : List Event} {id : Nat}
    {b : Backup} {c : Confirmation} (h : Known namer d events)
    (found : d.engine.operations.get? id = some (.backup b)) (stage : b.stage = .confirming c)
    (hmoved : c.stage ≠ .transferring) : .moved id .upload b.object ∈ events := by
  obtain ⟨orders, hserving⟩ := h.serving
  obtain ⟨hc, haction, hobject⟩ := h.transfer_eq found stage
  rw [← haction, ← hobject]
  exact hserving.moved id _ c found hc hmoved

/-- A removal whose object is deleted says so, and forgets its snapshot. -/
theorem erases_of_call {e : Engine} {id : Nat} {d : Removal} {s : Snapshot}
    (found : e.operations.get? id = some (.removal d)) (stage : d.stage = .erasing s) :
    .moved id .delete (d.object s) ∈ (e.step (.signalled id (.answered (.moved true)))).2 ∧
      (e.step (.signalled id (.answered (.moved true)))).1.registry.snapshots =
        e.registry.snapshots.erase d.snapshotId := by
  have hcall : (Operation.removal d).call? = some (.move .delete (d.object s)) := by
    simp only [Operation.call?, Removal.call?, stage]
  have hresume : (Operation.removal d).resume e.registry (.answered (.moved true)) =
      some (.ends (e.registry.removeSnapshot d.snapshotId) (.ok .deleted)) := by
    simp [Operation.resume, Removal.resume_erasing stage, Progress.map]
  obtain ⟨hmem, hstep⟩ := Engine.step_answered found hcall hresume
  refine ⟨hmem, ?_⟩
  rw [hstep _ _ rfl, Engine.snapshots_remove]
  rfl

end Depot

end SnapshotEngine
