import SnapshotEngine.Proofs.Engine.Calls
import SnapshotEngine.Proofs.Engine.Naming
import SnapshotEngine.Proofs.Engine.Registered

/-!
# Where snapshots come from

A snapshot is kept by the backup that made it and by nobody else, so it can be
traced back to an order and to the end of the operation that served the order.  A
removal takes its snapshot from those, or reads it off its identifier.  The
namespace that is kept with a snapshot is the one that its volume was registered
with, since no operation ever changes it.

* `BackedUp`, `StandsFor` — what an identifier stands for;
* `Sourced`, `sourced_trace` — every snapshot and every removal has its source;
* `Effect.snapshots_hold` — what holds of all snapshots;
* `Housed`, `housed_trace` — the namespace of a volume is kept.
-/

namespace SnapshotEngine

/-- A backup that was ordered and has ended well with an identifier. -/
def BackedUp (orders : List (Settings × Order)) (events : List Event)
    (id volumeId backupName : String) : Prop :=
  SnapshotId.encode volumeId backupName = .ok id ∧
    ∃ k settings, orders[k]? = some (settings, .backup volumeId backupName) ∧
      .ended k (.ok (.backedUp id)) ∈ events

/-- An identifier stands for the backup that ended with it, and for the one that is
read off it. -/
def StandsFor (orders : List (Settings × Order)) (events : List Event)
    (id volumeId backupName : String) : Prop :=
  BackedUp orders events id volumeId backupName ∨
    SnapshotId.decode id = .ok (volumeId, backupName)

/-- What happens later does not undo a backup. -/
theorem BackedUp.append {orders : List (Settings × Order)} {events : List Event}
    {id volumeId backupName : String} (h : BackedUp orders events id volumeId backupName)
    (later : List (Settings × Order)) (more : List Event) :
    BackedUp (orders ++ later) (events ++ more) id volumeId backupName := by
  obtain ⟨hid, k, settings, horder, hended⟩ := h
  have hk := (List.getElem?_eq_some_iff.mp horder).1
  exact ⟨hid, k, settings, (List.getElem?_append_left hk).trans horder,
    List.mem_append_left more hended⟩

theorem StandsFor.append {orders : List (Settings × Order)} {events : List Event}
    {id volumeId backupName : String} (h : StandsFor orders events id volumeId backupName)
    (later : List (Settings × Order)) (more : List Event) :
    StandsFor (orders ++ later) (events ++ more) id volumeId backupName :=
  h.imp_left fun hbackedUp => hbackedUp.append later more

/-- An identifier is made of what it stands for. -/
theorem StandsFor.text {orders : List (Settings × Order)} {events : List Event}
    {id volumeId backupName : String} (h : StandsFor orders events id volumeId backupName) :
    id = volumeId ++ separator ++ backupName := by
  rcases h with ⟨hid, _⟩ | hdecode
  · exact (SnapshotId.encode_eq_ok_iff.mp hid).2.2
  · exact SnapshotId.append_of_decode hdecode

/-- It is read back as what it stands for, if no volume that was backed up makes a
separator of its own. -/
theorem StandsFor.decode {orders : List (Settings × Order)} {events : List Event}
    {id volumeId backupName : String} (h : StandsFor orders events id volumeId backupName)
    (hopen : ∀ id volumeId backupName, BackedUp orders events id volumeId backupName →
      ¬ SnapshotId.OpensSeparator volumeId) :
    SnapshotId.decode id = .ok (volumeId, backupName) := by
  rcases h with hbackedUp | hdecode
  · exact SnapshotId.decode_of_encode hbackedUp.1 (hopen id volumeId backupName hbackedUp)
  · exact hdecode

/-- The volume and the backup that a removal is about. -/
def Removal.subject (d : Removal) : String × String :=
  match d.stage with
  | .locating volumeId backupName => (volumeId, backupName)
  | .retracting s | .erasing s => (s.volumeId, s.backupName)

/-- A removal that goes on is about the same backup. -/
theorem Removal.GoesOn.subject {d d' : Removal} {signal : Signal} (h : d.GoesOn signal d') :
    d'.subject = d.subject := by
  unfold Removal.subject
  cases h with
  | located stage claimNamespace => rw [stage]
  | retracted stage => rw [stage]

namespace Engine

/-! ## Snapshots and removals -/

/-- Every snapshot that is kept was backed up, and a removal is about what its
identifier stands for. -/
structure Sourced (orders : List (Settings × Order)) (e : Engine) (events : List Event) :
    Prop where
  cached : ∀ id s, e.registry.snapshot? id = some s →
    BackedUp orders events id s.volumeId s.backupName
  removals : ∀ j d, e.operations.get? j = some (.removal d) →
    StandsFor orders events d.snapshotId d.subject.1 d.subject.2

/-- **Step.** -/
theorem Sourced.effect {orders : List (Settings × Order)} {e e' : Engine} {s : Stimulus}
    {past events : List Event} (h : Sourced orders e past) (hserving : Serving orders e past)
    (heffect : Effect e s e' events) :
    Sourced (orders ++ s.order?.toList) e' (past ++ events) where
  cached id sn hsn := by
    unfold Registry.snapshot? at hsn
    have hevents := heffect.snapshots
    cases hevents with
    | kept same unconfirmed =>
        rw [same] at hsn
        exact (h.cached id sn hsn).append _ _
    | removed found stage snapshots unconfirmed =>
        rw [snapshots, Table.get?_erase] at hsn
        split at hsn
        · cases hsn
        · exact (h.cached id sn hsn).append _ _
    | inserted found stage settled snapshots =>
        rename_i k b c
        rw [snapshots, Table.get?_insert] at hsn
        split at hsn
        · rename_i heq
          cases hsn
          subst heq
          obtain ⟨settings, order, horder, hserves⟩ := hserving.serves k _ found
          obtain ⟨rfl, _, hid⟩ := hserves.of_backup
          have hk := (List.getElem?_eq_some_iff.mp horder).1
          exact ⟨hid, k, settings, (List.getElem?_append_left hk).trans horder, by simp⟩
        · exact (h.cached id sn hsn).append _ _
  removals j d hop := by
    cases heffect.operation hop with
    | kept found unanswered => exact (h.removals j d found).append _ _
    | wentOn found registry resume =>
        obtain ⟨d₀, rfl, hgoes⟩ := Operation.removal_of_resume resume
        rw [hgoes.same.2, hgoes.subject]
        exact (h.removals j d₀ found).append _ _
    | started number registry start =>
        obtain ⟨snapshotId, rfl, hstart⟩ := Operation.removal_of_start start
        obtain ⟨_, _, rfl, ⟨sn, hsn, hstage⟩ | ⟨volumeId, backupName, hdecode, hstage⟩⟩ :=
          Removal.start_waits hstart
        · have hsubject : d.subject = (sn.volumeId, sn.backupName) := by
            simp only [Removal.subject, hstage]
          rw [hsubject]
          exact .inl ((h.cached d.snapshotId sn hsn).append _ _)
        · have hsubject : d.subject = (volumeId, backupName) := by
            simp only [Removal.subject, hstage]
          rw [hsubject]
          exact .inr hdecode

/-- **Run.** -/
theorem sourced_trace {r : Registry} {stimuli : List Stimulus} {e : Engine}
    {events : List Event} (h : Trace r stimuli e events)
    (hempty : ∀ id, r.snapshot? id = none) : Sourced (ordersOf stimuli) e events := by
  induction h with
  | start =>
      refine ⟨?_, fun _ _ hop => (by cases hop)⟩
      intro id s hs
      cases (hempty id).symm.trans hs
  | step before s ih =>
      rw [ordersOf_concat]
      exact ih.effect (serving_trace before) (effect_step _ s)

/-! ## Namespaces -/

/-- Every backup in progress and every snapshot that is kept has the namespace of its
volume. -/
structure Housed (e : Engine) : Prop where
  backups : ∀ k b, e.operations.get? k = some (.backup b) →
    ∃ v, e.registry.volume? b.volumeId = some v ∧ v.claimNamespace = b.claimNamespace
  cached : ∀ id s, e.registry.snapshot? id = some s →
    ∃ v, e.registry.volume? s.volumeId = some v ∧ v.claimNamespace = s.claimNamespace

/-- What holds of all backups in progress and of all snapshots that are kept goes on to
hold of them, if it stays true and is true of every backup that starts. -/
theorem Effect.snapshots_hold {e e' : Engine} {s : Stimulus} {events : List Event}
    {P : Registry → String → Snapshot → Prop} (h : Effect e s e' events)
    (stays : ∀ id sn, P e.registry id sn → P e'.registry id sn)
    (starts : ∀ settings volumeId backupName r b,
      Backup.start e.registry settings volumeId backupName = .waits r b →
        P e.registry b.snapshotId b.snapshot)
    (hbackups : ∀ k b, e.operations.get? k = some (.backup b) →
      P e.registry b.snapshotId b.snapshot)
    (hcached : ∀ id sn, e.registry.snapshot? id = some sn → P e.registry id sn) :
    (∀ k b, e'.operations.get? k = some (.backup b) → P e'.registry b.snapshotId b.snapshot) ∧
      ∀ id sn, e'.registry.snapshot? id = some sn → P e'.registry id sn := by
  refine ⟨?_, ?_⟩
  · intro k b hop
    apply stays
    cases h.operation hop with
    | kept found unanswered => exact hbackups k b found
    | wentOn found registry resume =>
        obtain ⟨b₀, rfl, hgoes⟩ := Operation.backup_of_resume resume
        obtain ⟨_, hsnapshot, hid⟩ := hgoes.same
        rw [hsnapshot, hid]
        exact hbackups k b₀ found
    | started number registry start =>
        obtain ⟨_, _, _, hstart⟩ := Operation.backup_of_start start
        exact starts _ _ _ _ b hstart
  · intro id sn hsn
    apply stays
    unfold Registry.snapshot? at hsn
    cases h.snapshots with
    | kept same unconfirmed =>
        rw [same] at hsn
        exact hcached id sn hsn
    | removed found stage snapshots unconfirmed =>
        rw [snapshots, Table.get?_erase] at hsn
        split at hsn
        · cases hsn
        · exact hcached id sn hsn
    | inserted found stage settled snapshots =>
        rw [snapshots, Table.get?_insert] at hsn
        split at hsn
        · rename_i heq
          cases hsn
          exact heq ▸ hbackups _ _ found
        · exact hcached id sn hsn

/-- **Step.** -/
theorem Housed.effect {e e' : Engine} {s : Stimulus} {events : List Event} (h : Housed e)
    (heffect : Effect e s e' events) : Housed e' := by
  have hholds := heffect.snapshots_hold
    (P := fun r _ sn => ∃ v, r.volume? sn.volumeId = some v ∧
      v.claimNamespace = sn.claimNamespace)
    ?_ ?_ h.backups h.cached
  · exact ⟨hholds.1, hholds.2⟩
  · rintro _ sn ⟨v, hv, hnamespace⟩
    obtain ⟨v', hv', hsame⟩ := heffect.registered hv
    exact ⟨v', hv', hsame.claimNamespace.trans hnamespace⟩
  · intro settings volumeId backupName r b hstart
    exact Backup.start_claimNamespace hstart

/-- **Run.** -/
theorem housed_trace {r : Registry} {stimuli : List Stimulus} {e : Engine} {events : List Event}
    (h : Trace r stimuli e events) (hempty : ∀ id, r.snapshot? id = none) : Housed e := by
  induction h with
  | start =>
      refine ⟨fun _ _ hop => (by cases hop), ?_⟩
      intro id s hs
      cases (hempty id).symm.trans hs
  | step before s ih => exact ih.effect (effect_step _ s)

end Engine

end SnapshotEngine
