import SnapshotEngine.Proofs.Depot.Moved
import SnapshotEngine.Proofs.Engine.Account
import SnapshotEngine.Proofs.Engine.Cache
import SnapshotEngine.Proofs.Engine.Restart
import SnapshotEngine.Proofs.Engine.WellFormed

/-!
# Backups of one volume under one name

A name may be used again: then a later backup writes the object of an earlier one, and the
two make the same identifier.  A backup that has uploaded its object is confirmed in the
end, or it ends without a confirmation, in one of three ways.  The snapshot that an earlier
one has made is not touched by that.  So a snapshot was made by a backup that was
confirmed, but the object may have been written since by backups that were not.

* `uploadersOf` — the backups of a volume under a name, as they have uploaded;
* `Unconfirmed`, `over_after_upload` — how a backup that has uploaded may be over;
* `cache_follows_confirmations` — what is kept, and who has uploaded it last;
* `kept_after_unconfirmed_upload` — a snapshot of which the last upload was not confirmed.
-/

namespace SnapshotEngine

/-- The backup of a volume under a name that an event shows to have uploaded its object. -/
def Event.uploader? (orders : List (Settings × Order)) (volumeId backupName : String) :
    Event → Option Nat
  | .answered k (.move .upload _) (.moved true) =>
      if (orders[k]?.map Prod.snd) = some (.backup volumeId backupName) then some k else none
  | _ => none

/-- The backups of a volume under a name that have uploaded their object, one after
another. -/
def uploadersOf (orders : List (Settings × Order)) (volumeId backupName : String)
    (events : List Event) : List Nat :=
  events.filterMap (Event.uploader? orders volumeId backupName)

theorem mem_uploadersOf {orders : List (Settings × Order)} {volumeId backupName : String}
    {events : List Event} {k : Nat} :
    k ∈ uploadersOf orders volumeId backupName events ↔
      ∃ settings object, orders[k]? = some (settings, .backup volumeId backupName) ∧
        .moved k .upload object ∈ events := by
  unfold uploadersOf
  rw [List.mem_filterMap]
  constructor
  · rintro ⟨event, hmem, hevent⟩
    unfold Event.uploader? at hevent
    split at hevent
    · rename_i other object
      split at hevent
      · rename_i horder
        cases hevent
        obtain ⟨⟨settings, order⟩, hfound, rfl⟩ := Option.map_eq_some_iff.mp horder
        exact ⟨settings, object, hfound, hmem⟩
      · cases hevent
    · cases hevent
  · rintro ⟨settings, object, horder, hmem⟩
    refine ⟨_, hmem, ?_⟩
    simp [Event.uploader?, horder]

/-- A backup is over and was not confirmed, though it may have uploaded its object: its job
was not done, its time was over, or nobody waited for it. -/
inductive Unconfirmed (events : List Event) (volumeId : String) (k : Nat) : Prop where
  | undone {status : JobStatus} {object : String} (undone : status ≠ .done)
      (ended : .ended k (.error (.backupNotConfirmed volumeId status object)) ∈ events)
  | timedOut {name : String} {limit : Duration}
      (ended : .ended k (.error (.timeout name limit)) ∈ events)
  | dropped (dropped : .dropped k ∈ events)

/-- A backup that goes by a transfer ends confirmed, unconfirmed or out of time, unless the
transfer fails. -/
theorem Backup.ends_of_confirming {r r' : Registry} {b : Backup} {c : Confirmation}
    {signal : Signal} {outcome : Outcome} (stage : b.stage = .confirming c)
    (unfailed : c.stage ≠ .transferring ∨ signal = .answered (.moved true))
    (ends : b.Ends r signal r' outcome) :
    outcome = .ok (.backedUp b.snapshotId) ∨
      (∃ status, status ≠ .done ∧
        outcome = .error (.backupNotConfirmed b.volumeId status b.object)) ∨
      ∃ name limit, outcome = .error (.timeout name limit) := by
  cases ends with
  | unpreserved stage' => cases stage.symm.trans stage'
  | refused stage' => cases stage.symm.trans stage'
  | failed stage' advance =>
      cases stage.symm.trans stage'
      obtain ⟨rfl, hmoving, _⟩ := Confirmation.advance_eq_failed advance
      rcases unfailed with hover | hsignal
      · exact absurd hmoving hover
      · cases hsignal
  | timedOut stage' advance => exact .inr (.inr ⟨_, _, rfl⟩)
  | unconfirmed stage' advance status => exact .inr (.inl ⟨_, status, rfl⟩)
  | confirmed stage' advance status => exact .inl rfl

namespace Engine

/-- A backup that has uploaded its object goes by its transfer, which is over or comes to
its end just now. -/
theorem Uploads.confirming {e e' : Engine} {s : Stimulus} {past events : List Event} {k : Nat}
    {b : Backup} {object : String} (h : Uploads e past) (heffect : Effect e s e' events)
    (found : e.operations.get? k = some (.backup b))
    (hmoved : .moved k .upload object ∈ past ++ events) :
    ∃ c, b.stage = .confirming c ∧
      (c.stage ≠ .transferring ∨ s = .signalled k (.answered (.moved true))) := by
  rcases List.mem_append.mp hmoved with hpast | hnow
  · obtain ⟨_, c, hstage, hover⟩ := h.uploaded k b object found hpast
    exact ⟨c, hstage, .inl hover⟩
  · obtain ⟨hs, op, hop, hcall⟩ := heffect.of_answered hnow
    cases found.symm.trans hop
    rcases Operation.of_call?_move hcall with ⟨c, hc, _⟩ | ⟨_, _, heq, _⟩
    · rcases Operation.of_confirmation? hc with ⟨b', heq, hstage⟩ | ⟨_, _, heq, _⟩
      · cases heq
        exact ⟨c, hstage, .inr hs⟩
      · cases heq
    · cases heq

/-- **Step.**  A backup that has uploaded its object ends confirmed, unconfirmed or out of
time. -/
theorem Uploads.ends {orders : List (Settings × Order)} {e e' : Engine} {s : Stimulus}
    {past events : List Event} {k : Nat} {settings : Settings}
    {volumeId backupName object : String} {outcome : Outcome} (h : Uploads e past)
    (hserving : Serving orders e past) (heffect : Effect e s e' events)
    (horder : (orders ++ s.order?.toList)[k]? = some (settings, .backup volumeId backupName))
    (hmoved : .moved k .upload object ∈ past ++ events) (hended : .ended k outcome ∈ events) :
    (∃ id, SnapshotId.encode volumeId backupName = .ok id ∧ outcome = .ok (.backedUp id)) ∨
      (∃ status object, status ≠ .done ∧
        outcome = .error (.backupNotConfirmed volumeId status object)) ∨
      ∃ name limit, outcome = .error (.timeout name limit) := by
  cases heffect.endedBy hended with
  | refused number start =>
      rcases List.mem_append.mp hmoved with hpast | hnow
      · exact absurd (number ▸ h.numbered k _ _ hpast) (Nat.lt_irrefl _)
      · cases (heffect.of_answered hnow).1
  | ended found admits resume =>
      rename_i signal op r
      obtain ⟨settings', order, horder', hserves⟩ := hserving.serves k op found
      have hk := (List.getElem?_eq_some_iff.mp horder').1
      cases horder'.symm.trans ((List.getElem?_append_left hk).symm.trans horder)
      obtain ⟨b, rfl, _, rfl, rfl⟩ := hserves.by_backup
      obtain ⟨c, hstage, hover⟩ := h.confirming heffect found hmoved
      have hends := Backup.ends_of_resume (Progress.some_ends_of_map resume)
      have hsignal : c.stage ≠ .transferring ∨ signal = .answered (.moved true) :=
        hover.imp_right fun heq => (Stimulus.signalled.inj heq).2
      rcases Backup.ends_of_confirming hstage hsignal hends with
        rfl | ⟨status, hundone, rfl⟩ | ⟨name, limit, rfl⟩
      · exact .inl ⟨_, hserves.of_backup.2.2, rfl⟩
      · exact .inr (.inl ⟨status, _, hundone, rfl⟩)
      · exact .inr (.inr ⟨name, limit, rfl⟩)

/-- **Run.**  A backup that has uploaded its object and is over was confirmed or was
not. -/
theorem over_after_upload {r : Registry} {stimuli : List Stimulus} {k : Nat}
    {settings : Settings} {volumeId backupName object : String} {event : Event}
    (horder : (ordersOf stimuli)[k]? = some (settings, .backup volumeId backupName))
    (hmoved : .moved k .upload object ∈ ((ofRegistry r).run stimuli).2)
    (hevent : event ∈ ((ofRegistry r).run stimuli).2) (hcloses : event.closes? = some k) :
    (∃ id, SnapshotId.encode volumeId backupName = .ok id ∧
        event = .ended k (.ok (.backedUp id))) ∨
      Unconfirmed ((ofRegistry r).run stimuli).2 volumeId k := by
  cases event with
  | dropped id =>
      cases hcloses
      exact .inr (.dropped hevent)
  | ended id outcome =>
      cases hcloses
      obtain ⟨first, s, rest, rfl, hstep⟩ := exists_step_of_mem hevent
      have htrace := trace_run r first
      have heffect := effect_step ((ofRegistry r).run first).1 s
      have hfinished := (owned_trace htrace).finished heffect hstep rfl
      -- Nothing is seen of the backup once it is over.
      have hbefore : .moved k .upload object ∈
          ((ofRegistry r).run first).2 ++ (((ofRegistry r).run first).1.step s).2 := by
        rw [run_split, ← List.append_assoc] at hmoved
        rcases List.mem_append.mp hmoved with hbefore | hlater
        · exact hbefore
        · exact absurd rfl (hfinished.quiet rest _ hlater)
      have hplaced : (ordersOf first ++ s.order?.toList)[k]? =
          some (settings, .backup volumeId backupName) := by
        have hsplit : first ++ s :: rest = (first ++ [s]) ++ rest := by simp
        rw [← ordersOf_concat]
        rw [hsplit, ordersOf, List.filterMap_append] at horder
        refine (List.getElem?_append_left ?_).symm.trans horder
        exact (htrace.step s).number_lt_orders _ (List.mem_append_right _ hstep) k rfl
      rcases (uploads_trace htrace).ends (serving_trace htrace) heffect hplaced hbefore hstep with
        ⟨id, hid, rfl⟩ | ⟨status, object, hundone, rfl⟩ | ⟨name, limit, rfl⟩
      · exact .inl ⟨id, hid, rfl⟩
      · exact .inr (.undone hundone hevent)
      · exact .inr (.timedOut hevent)
  | _ => cases hcloses

/-- **Run.**  A backup that has uploaded its object is in progress, was confirmed, or was
not. -/
theorem confirmed_or_unconfirmed {r : Registry} {stimuli : List Stimulus}
    {volumeId backupName : String} {k : Nat}
    (hk : k ∈ uploadersOf (ordersOf stimuli) volumeId backupName ((ofRegistry r).run stimuli).2)
    (hover : ¬ Live ((ofRegistry r).run stimuli).2 k) :
    (∃ id, SnapshotId.encode volumeId backupName = .ok id ∧
        .ended k (.ok (.backedUp id)) ∈ ((ofRegistry r).run stimuli).2) ∨
      Unconfirmed ((ofRegistry r).run stimuli).2 volumeId k := by
  obtain ⟨settings, object, horder, hmoved⟩ := mem_uploadersOf.mp hk
  have htrace := trace_run r stimuli
  have hcalled := htrace.called_of_answered hmoved
  rcases (called_trace htrace).calls k _ hcalled with hop | ⟨event, hevent, hcloses⟩
  · exact absurd ((htrace.live_iff k).mpr hop) hover
  · exact (over_after_upload horder hmoved hevent hcloses).imp_left
      fun ⟨id, hid, heq⟩ => ⟨id, hid, heq ▸ hevent⟩

/-- Some numbers, cut at the last of which something holds. -/
theorem exists_last_of_mem {P : Nat → Prop} {numbers : List Nat} (h : ∃ k ∈ numbers, P k) :
    ∃ earlier k later, numbers = earlier ++ k :: later ∧ P k ∧ ∀ l ∈ later, ¬ P l := by
  induction numbers with
  | nil =>
      obtain ⟨k, hk, _⟩ := h
      cases hk
  | cons n rest ih =>
      by_cases hrest : ∃ k ∈ rest, P k
      · obtain ⟨earlier, k, later, rfl, hk, hlater⟩ := ih hrest
        exact ⟨n :: earlier, k, later, rfl, hk, hlater⟩
      · obtain ⟨k, hk, hP⟩ := h
        rcases List.mem_cons.mp hk with rfl | hmem
        · exact ⟨[], k, rest, rfl, hP, fun l hl hlP => hrest ⟨l, hl, hlP⟩⟩
        · exact absurd ⟨k, hmem, hP⟩ hrest

/-- **Confirmations and uploads.**  In a run that starts without snapshots, an identifier
has a snapshot exactly if a backup of it was confirmed and no removal of it has ended well
since.  The object of the snapshot was uploaded by a backup that was confirmed; and once
all backups that have uploaded it are over, those that have done so later were not
confirmed, and each of them has said so or was dropped.  So the last upload was confirmed
exactly if there was none of these. -/
theorem cache_follows_confirmations (r : Registry) (stimuli : List Stimulus)
    (hempty : ∀ id, r.snapshot? id = none) (id : String) :
    let e := ((ofRegistry r).run stimuli).1
    let events := ((ofRegistry r).run stimuli).2
    let orders := ordersOf stimuli
    ((∃ sn, e.registry.snapshot? id = some sn) ↔
      ∃ past k later, events = past ++ .ended k (.ok (.backedUp id)) :: later ∧
        ¬ Removed orders id later) ∧
    ∀ sn, e.registry.snapshot? id = some sn →
      (∀ k ∈ uploadersOf orders sn.volumeId sn.backupName events, ¬ Live events k) →
        ∃ earlier k later,
          uploadersOf orders sn.volumeId sn.backupName events = earlier ++ k :: later ∧
          .ended k (.ok (.backedUp id)) ∈ events ∧
          (∀ l ∈ later, Unconfirmed events sn.volumeId l) ∧
          ((∃ l, (uploadersOf orders sn.volumeId sn.backupName events).getLast? = some l ∧
            .ended l (.ok (.backedUp id)) ∈ events) ↔ later = []) := by
  intro e events orders
  have htrace : Trace r stimuli e events := trace_run r stimuli
  refine ⟨snapshot?_iff_confirmed htrace hempty id, ?_⟩
  intro sn hsn hover
  obtain ⟨hid, k₀, settings, horder, hended⟩ := (sourced_trace htrace hempty).cached id sn hsn
  have huploader : k₀ ∈ uploadersOf orders sn.volumeId sn.backupName events :=
    mem_uploadersOf.mpr ⟨settings, _, horder, (htrace.uploaded horder hended).2⟩
  obtain ⟨earlier, k, later, hsplit, hconfirmed, hlater⟩ := exists_last_of_mem
    (P := fun k => .ended k (.ok (.backedUp id)) ∈ events) ⟨k₀, huploader, hended⟩
  refine ⟨earlier, k, later, hsplit, hconfirmed, ?_, ?_⟩
  · intro l hl
    have hmem : l ∈ uploadersOf orders sn.volumeId sn.backupName events := by
      rw [hsplit]
      exact List.mem_append_right _ (List.mem_cons_of_mem _ hl)
    rcases confirmed_or_unconfirmed hmem (hover l hmem) with ⟨id', hid', hended'⟩ | hnot
    · cases hid.symm.trans hid'
      exact absurd hended' (hlater l hl)
    · exact hnot
  · rw [hsplit, List.getLast?_append_cons]
    constructor
    · rintro ⟨l, hlast, hended'⟩
      cases later with
      | nil => rfl
      | cons m more =>
          rw [List.getLast?_cons_cons] at hlast
          exact absurd hended' (hlater l (List.mem_of_getLast? hlast))
    · rintro rfl
      exact ⟨k, rfl, hconfirmed⟩

/-- A backup that is confirmed, and another one under its name whose job fails. -/
def backupRepeated : List Stimulus :=
  backupKept ++ [.ordered (.default "mover:9000") (.backup "pvc-1" "daily-01"),
    .signalled 1 (.answered (.preserved (.ok ()))),
    .signalled 1 (.answered (.accepted (.ok ⟨.backup, "daily-01", "pvc-1", "apps"⟩))),
    .signalled 1 (.answered (.moved true)), .woken 1 (.answered (.ok .failed)),
    .signalled 1 .pollerExited]

/-- The second backup ends without a confirmation. -/
theorem ended_backupRepeated :
    .ended 1 (.error (.backupNotConfirmed "pvc-1" .failed "daily-01/cstor-pvc-1")) ∈
      (empty.run backupRepeated).2 :=
  List.mem_of_getElem? (i := 16) rfl

/-- **A snapshot of an upload that was not confirmed.**  The snapshot of the first backup
stays, though the second has written its object. -/
theorem kept_after_unconfirmed_upload :
    let id := "pvc-1-velero-bkp-daily-01"
    let e := (empty.run backupRepeated).1
    let events := (empty.run backupRepeated).2
    e.registry.snapshot? id = some ⟨"pvc-1", "daily-01", "apps"⟩ ∧
      e.operations.entries = [] ∧
      (uploadersOf (ordersOf backupRepeated) "pvc-1" "daily-01" events).getLast? = some 1 ∧
      .ended 1 (.error (.backupNotConfirmed "pvc-1" .failed "daily-01/cstor-pvc-1")) ∈ events ∧
      .ended 1 (.ok (.backedUp id)) ∉ events := by
  intro id e events
  refine ⟨by decide +kernel, by decide +kernel, by decide +kernel, ended_backupRepeated, ?_⟩
  intro hconfirmed
  cases ended_once (trace_run .empty backupRepeated) ended_backupRepeated hconfirmed

theorem cache_follows_confirmations_daily :
    let id := "pvc-1-velero-bkp-daily-01"
    let events := (empty.run backupRepeated).2
    (∀ id, Registry.empty.snapshot? id = none) ∧
      (empty.run backupRepeated).1.registry.snapshot? id = some ⟨"pvc-1", "daily-01", "apps"⟩ ∧
      (∀ k ∈ uploadersOf (ordersOf backupRepeated) "pvc-1" "daily-01" events, ¬ Live events k) ∧
      .ended 0 (.ok (.backedUp id)) ∈ events ∧ Unconfirmed events "pvc-1" 1 := by
  intro id events
  have hempty : ∀ id, Registry.empty.snapshot? id = none := fun _ => rfl
  have hkept : (empty.run backupRepeated).1.registry.snapshot? id =
      some ⟨"pvc-1", "daily-01", "apps"⟩ := by decide +kernel
  have hover : ∀ k ∈ uploadersOf (ordersOf backupRepeated) "pvc-1" "daily-01" events,
      ¬ Live events k := by
    intro k _ hlive
    have htrace : Trace .empty backupRepeated (empty.run backupRepeated).1 events :=
      trace_run .empty backupRepeated
    obtain ⟨op, hop⟩ := (htrace.live_iff k).mp hlive
    cases hop
  have huploaders : uploadersOf (ordersOf backupRepeated) "pvc-1" "daily-01" events = [0, 1] := by
    decide +kernel
  obtain ⟨_, hbackups⟩ := cache_follows_confirmations .empty backupRepeated hempty id
  obtain ⟨earlier, k, later, hsplit, hconfirmed, hlater, _⟩ := hbackups _ hkept hover
  have hk : [0, 1] = earlier ++ k :: later := huploaders.symm.trans hsplit
  have hfirst : k ≠ 1 := by
    rintro rfl
    cases ended_once (trace_run .empty backupRepeated) ended_backupRepeated hconfirmed
  cases earlier with
  | nil =>
      cases hk
      exact ⟨hempty, hkept, hover, hconfirmed, hlater 1 (List.mem_singleton_self 1)⟩
  | cons n more =>
      obtain ⟨rfl, hrest⟩ := List.cons.inj hk
      have hlast : k ∈ [1] := by
        rw [hrest]
        exact List.mem_append_right _ (List.mem_cons_self ..)
      exact absurd (List.mem_singleton.mp hlast) hfirst

end Engine

end SnapshotEngine
