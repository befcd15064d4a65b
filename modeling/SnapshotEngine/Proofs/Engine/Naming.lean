import SnapshotEngine.Proofs.Engine.Confirmation
import SnapshotEngine.Proofs.Identifier.RoundTrip
import SnapshotEngine.Proofs.ObjectName

/-!
# Which snapshots are kept under which identifiers

A snapshot is kept as its backup ends well, and forgotten as its removal does; no
other step reaches the snapshots.  If all operations name objects in one way, and
no volume has a slash in its name, then whatever is kept or being removed under an
identifier is the backup that the identifier spells out, and no two of them share
an object.

* `Effect.snapshots` — what a step does to the snapshots;
* `Named`, `named_trace` — every identifier spells its snapshot out;
* `Snapshot.eq_of_objectName` — one object, one identifier.
-/

namespace SnapshotEngine

/-- A snapshot that an identifier spells out, of a volume without a slash. -/
def Snapshot.Names (s : Snapshot) (id : String) : Prop :=
  Flat s.volumeId ∧ id = s.volumeId ++ separator ++ s.backupName

/-- Snapshots that share an object share an identifier. -/
theorem Snapshot.eq_of_objectName {s s' : Snapshot} {id id' : String} {namer : ObjectNamer}
    (h : s.Names id) (h' : s'.Names id')
    (hobject : namer.objectName s.volumeId s.backupName =
      namer.objectName s'.volumeId s'.backupName) :
    s.volumeId = s'.volumeId ∧ id = id' := by
  obtain ⟨hvolume, hbackup⟩ := ObjectNamer.objectName_inj h.1 h'.1 hobject
  refine ⟨hvolume, ?_⟩
  rw [h.2, h'.2, hvolume, hbackup]

/-- The volume that an order names has no slash in its name; of a restore only the
volume it is given matters. -/
def Order.isFlat : Order → Bool
  | .backup volumeId _ => decide (Flat volumeId)
  | .restore _ _ => true
  | .removal snapshotId =>
      match SnapshotId.decode snapshotId with
      | .ok (volumeId, _) => decide (Flat volumeId)
      | .error _ => true

/-- What a removal is about is what its identifier spells out. -/
def Removal.Spelled (d : Removal) : Prop :=
  match d.stage with
  | .locating volumeId backupName => (Snapshot.mk volumeId backupName "").Names d.snapshotId
  | .retracting s | .erasing s => s.Names d.snapshotId

namespace Engine

/-- What a step does to the snapshots. -/
inductive SnapshotEffect (e e' : Engine) : Stimulus → List Event → Prop where
  | kept {s : Stimulus} {events : List Event}
      (same : e'.registry.snapshots = e.registry.snapshots)
      (unconfirmed : ∀ id snapshotId, .ended id (.ok (.backedUp snapshotId)) ∉ events) :
      SnapshotEffect e e' s events
  | inserted {k : Nat} {b : Backup} {c : Confirmation}
      (found : e.operations.get? k = some (.backup b)) (stage : b.stage = .confirming c)
      (settled : c.stage ≠ .transferring)
      (snapshots : e'.registry.snapshots = e.registry.snapshots.insert b.snapshotId b.snapshot) :
      SnapshotEffect e e' (.signalled k .pollerExited) [.ended k (.ok (.backedUp b.snapshotId))]
  | removed {k : Nat} {d : Removal} {s : Snapshot} {events : List Event}
      (found : e.operations.get? k = some (.removal d)) (stage : d.stage = .erasing s)
      (snapshots : e'.registry.snapshots = e.registry.snapshots.erase d.snapshotId)
      (unconfirmed : ∀ id snapshotId, .ended id (.ok (.backedUp snapshotId)) ∉ events)
      (ended : .ended k (.ok .deleted) ∈ events) :
      SnapshotEffect e e' (.signalled k (.answered (.moved true))) events

/-- A backup that is confirmed is kept, a snapshot whose object is gone is
forgotten, and that is all. -/
theorem Effect.snapshots {e e' : Engine} {s : Stimulus} {events : List Event}
    (h : Effect e s e' events) : SnapshotEffect e e' s events := by
  cases h with
  | started start =>
      refine .kept ?_ fun id snapshotId => not_mem_callEvents fun _ heq => by cases heq
      rw [registry_keep]
      rcases (Operation.start_waits start).2.2 with ⟨_, rfl⟩ | ⟨_, _, htakes⟩
      · rfl
      · exact htakes.snapshots
  | refused start =>
      obtain ⟨rfl, cause, rfl, _⟩ := Operation.start_ends start
      exact .kept rfl (by simp)
  | looked => exact .kept (looked_discover _ _).keeps.2.1 (by simp)
  | wentOn found admits resume =>
      refine .kept ?_ fun id snapshotId hmem => ?_
      · rw [registry_keep]
        cases Operation.goesOn_of_resume resume with
        | took free after holds unknown takes => exact takes.snapshots
        | _ => rfl
      · rcases List.mem_append.mp hmem with hmem | hmem
        · exact not_mem_answerEvents (fun _ _ heq => by cases heq) hmem
        · exact not_mem_callEvents (fun _ heq => by cases heq) hmem
  | ended found admits resume =>
      rename_i k signal op r outcome
      have hother : (∀ snapshotId, outcome ≠ .ok (.backedUp snapshotId)) → ∀ id snapshotId,
          .ended id (.ok (.backedUp snapshotId)) ∉
            answerEvents k op signal ++ [Event.ended k outcome] := by
        intro houtcome id snapshotId hmem
        rcases List.mem_append.mp hmem with hmem | hmem
        · exact not_mem_answerEvents (fun _ _ heq => by cases heq) hmem
        · rw [List.mem_singleton] at hmem
          cases hmem
          exact houtcome snapshotId rfl
      cases Operation.ends_of_resume resume with
      | failed undecided => exact .kept (snapshots_remove ..) (hother nofun)
      | unconfirmed transfer advance status decided =>
          exact .kept (snapshots_remove ..) (hother nofun)
      | restored stage advance status => exact .kept (snapshots_remove ..) (hother nofun)
      | backedUp stage advance status =>
          obtain ⟨rfl, hsettled⟩ := Confirmation.advance_eq_settled advance
          exact .inserted found stage hsettled (snapshots_remove ..)
      | deleted stage => exact .removed found stage (snapshots_remove ..) (hother nofun) (by simp)
  | dropped found => exact .kept (snapshots_remove ..) (by simp)
  | idle unordered => exact .kept rfl (by simp)
  | heard found asking live =>
      exact .kept (Registry.snapshots_held_record _ _ _).1 (by simp)
  | unheard found asking live => exact .kept rfl (by simp)
  | unserved found => exact .kept rfl (by simp)

/-- Whatever is kept after any other step was kept before. -/
theorem Effect.snapshot?_of_other {e e' : Engine} {s : Stimulus} {events : List Event}
    {id : String} {sn : Snapshot} (h : Effect e s e' events)
    (hother : ∀ k, s ≠ .signalled k .pollerExited)
    (hsn : e'.registry.snapshot? id = some sn) : e.registry.snapshot? id = some sn := by
  unfold Registry.snapshot? at hsn ⊢
  cases h.snapshots with
  | kept same unconfirmed => exact same ▸ hsn
  | inserted found stage settled snapshots => exact absurd rfl (hother _)
  | removed found stage snapshots unconfirmed =>
      rw [snapshots, Table.get?_erase] at hsn
      split at hsn
      · cases hsn
      · exact hsn

/-- A backup that ends well has found its poller stopped, and keeps its snapshot. -/
theorem Effect.of_backedUp {e e' : Engine} {s : Stimulus} {events : List Event} {id : Nat}
    {snapshotId : String} (h : Effect e s e' events)
    (hmem : .ended id (.ok (.backedUp snapshotId)) ∈ events) :
    s = .signalled id .pollerExited ∧ ∃ b c, e.operations.get? id = some (.backup b) ∧
      b.stage = .confirming c ∧ c.stage ≠ .transferring ∧ snapshotId = b.snapshotId ∧
      events = [.ended id (.ok (.backedUp snapshotId))] ∧
      e'.registry.snapshots = e.registry.snapshots.insert snapshotId b.snapshot := by
  cases h.snapshots with
  | kept same unconfirmed => exact absurd hmem (unconfirmed id snapshotId)
  | removed found stage snapshots unconfirmed => exact absurd hmem (unconfirmed id snapshotId)
  | inserted found stage settled snapshots =>
      rw [List.mem_singleton] at hmem
      cases hmem
      exact ⟨rfl, _, _, found, stage, settled, rfl, rfl, snapshots⟩

/-- All operations name objects in one way, and every identifier spells out what is
kept, made or removed under it. -/
structure Named (namer : ObjectNamer) (e : Engine) : Prop where
  cached : ∀ id s, e.registry.snapshot? id = some s → s.Names id
  backups : ∀ k b, e.operations.get? k = some (.backup b) →
    b.settings.namer = namer ∧ b.snapshot.Names b.snapshotId
  removals : ∀ k d, e.operations.get? k = some (.removal d) →
    d.settings.namer = namer ∧ d.Spelled

/-- A removal that starts is about what its identifier spells out. -/
theorem spelled_of_start {namer : ObjectNamer} {e : Engine} {settings : Settings}
    {snapshotId : String} {r : Registry} {d : Removal} (h : Named namer e)
    (hflat : (Order.removal snapshotId).isFlat)
    (start : Removal.start e.registry settings snapshotId = .waits r d) : d.Spelled := by
  obtain ⟨_, _, rfl, ⟨s, hs, hstage⟩ | ⟨volumeId, backupName, hdecode, hstage⟩⟩ :=
    Removal.start_waits start
  · unfold Removal.Spelled
    rw [hstage]
    exact h.cached d.snapshotId s hs
  · unfold Removal.Spelled
    rw [hstage]
    simp only [Order.isFlat, hdecode, decide_eq_true_eq] at hflat
    exact ⟨hflat, SnapshotId.append_of_decode hdecode⟩

/-- A removal that goes on is about the same snapshot. -/
theorem spelled_of_goesOn {d d' : Removal} {signal : Signal} (goes : d.GoesOn signal d')
    (h : d.Spelled) : d'.Spelled := by
  unfold Removal.Spelled at h ⊢
  cases goes with
  | located stage claimNamespace =>
      rw [stage] at h
      exact h
  | retracted stage =>
      rw [stage] at h
      exact h

/-- **Step.** -/
theorem Named.effect {namer : ObjectNamer} {e e' : Engine} {s : Stimulus} {events : List Event}
    (h : Named namer e) (heffect : Effect e s e' events)
    (horder : ∀ settings order, s.order? = some (settings, order) →
      settings.namer = namer ∧ order.isFlat) : Named namer e' where
  cached id sn hsn := by
    unfold Registry.snapshot? at hsn
    cases heffect.snapshots with
    | kept same unconfirmed =>
        rw [same] at hsn
        exact h.cached id sn hsn
    | inserted found stage settled snapshots =>
        rw [snapshots, Table.get?_insert] at hsn
        split at hsn
        · rename_i heq
          cases hsn
          exact heq ▸ (h.backups _ _ found).2
        · exact h.cached id sn hsn
    | removed found stage snapshots unconfirmed =>
        rw [snapshots, Table.get?_erase] at hsn
        split at hsn
        · cases hsn
        · exact h.cached id sn hsn
  backups k b hop := by
    cases heffect.operation hop with
    | kept found unanswered => exact h.backups k b found
    | started number registry start =>
        rename_i settings order r
        obtain ⟨hnamer, hflat⟩ := horder settings order rfl
        obtain ⟨hserves, _⟩ := Operation.start_waits start
        obtain ⟨rfl, rfl, hid⟩ := hserves.of_backup
        refine ⟨hnamer, of_decide_eq_true hflat, ?_⟩
        exact (SnapshotId.encode_eq_ok_iff.mp hid).2.2
    | wentOn found registry resume =>
        obtain ⟨b₀, rfl, hgoes⟩ := Operation.backup_of_resume resume
        obtain ⟨hsettings, hsnapshot, hid⟩ := hgoes.same
        rw [hsettings, hsnapshot, hid]
        exact h.backups k b₀ found
  removals k d hop := by
    cases heffect.operation hop with
    | kept found unanswered => exact h.removals k d found
    | started number registry start =>
        rename_i settings order r
        obtain ⟨hnamer, hflat⟩ := horder settings order rfl
        obtain ⟨snapshotId, rfl, hstart⟩ := Operation.removal_of_start start
        refine ⟨?_, spelled_of_start h hflat hstart⟩
        rw [(Removal.start_waits hstart).2.1]
        exact hnamer
    | wentOn found registry resume =>
        obtain ⟨d₀, rfl, hgoes⟩ := Operation.removal_of_resume resume
        obtain ⟨hnamer, hspelled⟩ := h.removals k d₀ found
        refine ⟨?_, spelled_of_goesOn hgoes hspelled⟩
        rw [hgoes.same.1]
        exact hnamer

/-- **Run.** -/
theorem named_trace {namer : ObjectNamer} {r : Registry} {stimuli : List Stimulus} {e : Engine}
    {events : List Event} (h : Trace r stimuli e events) (hempty : ∀ id, r.snapshot? id = none)
    (horders : ∀ settings order, (settings, order) ∈ ordersOf stimuli →
      settings.namer = namer ∧ order.isFlat) : Named namer e := by
  induction h with
  | start =>
      have hnone : ∀ k, (ofRegistry r).operations.get? k = none := fun _ => rfl
      refine ⟨?_, by simp [hnone], by simp [hnone]⟩
      intro id s hs
      cases (hempty id).symm.trans hs
  | step before s ih =>
      rename_i stimuli e events
      have hpast := ih fun settings order hmem => by
        apply horders
        rw [ordersOf_concat]
        exact List.mem_append_left _ hmem
      refine hpast.effect (effect_step e s) fun settings order heq => ?_
      apply horders
      rw [ordersOf_concat, heq]
      simp

end Engine

end SnapshotEngine
