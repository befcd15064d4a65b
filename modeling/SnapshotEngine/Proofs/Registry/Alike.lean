import SnapshotEngine.Registry.Session

/-!
# Registries that cannot be told apart

A registry keeps its records in some order, and nothing that is asked of it depends on that
order.  Two registries with the same record for every volume, the same snapshots and the
same markers give the same replies to whatever is asked of them from then on.

* `Registry.Alike` — the same records, snapshots and markers;
* `RegistrySession.Alike.ask` — one request;
* `RegistrySession.Alike.askAll` — any number of them.
-/

namespace SnapshotEngine

/-- Two registries with the same records, the same snapshots and the same markers. -/
structure Registry.Alike (r r' : Registry) : Prop where
  volumes : ∀ name, r'.volume? name = r.volume? name
  snapshots : r'.snapshots = r.snapshots
  held : r'.held = r.held

/-- A record that is registered unless its name is taken touches neither snapshots nor
markers. -/
theorem Registry.snapshots_held_insertIfAbsent (r : Registry) (v : Volume) :
    (r.insertIfAbsent v).snapshots = r.snapshots ∧ (r.insertIfAbsent v).held = r.held := by
  unfold insertIfAbsent
  split <;> exact ⟨rfl, rfl⟩

namespace Registry.Alike

variable {r r' : Registry}

theorem insertIfAbsent (h : r.Alike r') (v : Volume) :
    (r.insertIfAbsent v).Alike (r'.insertIfAbsent v) := by
  obtain ⟨hsnapshots, hheld⟩ := r.snapshots_held_insertIfAbsent v
  obtain ⟨hsnapshots', hheld'⟩ := r'.snapshots_held_insertIfAbsent v
  refine ⟨fun name => ?_, ?_, ?_⟩
  · rw [volume?_insertIfAbsent, volume?_insertIfAbsent, h.volumes]
  · rw [hsnapshots, hsnapshots', h.snapshots]
  · rw [hheld, hheld', h.held]

theorem insert (h : r.Alike r') (v : Volume) : (r.insert v).Alike (r'.insert v) where
  volumes name := by rw [volume?_insert, volume?_insert, h.volumes]
  snapshots := h.snapshots
  held := h.held

theorem modify (h : r.Alike r') (name : String) (f : Volume → Volume) :
    (r.modify name f).Alike (r'.modify name f) where
  volumes other := by rw [volume?_modify, volume?_modify, h.volumes]
  snapshots := h.snapshots
  held := h.held

theorem insertSnapshot (h : r.Alike r') (id : String) (snapshot : Snapshot) :
    (r.insertSnapshot id snapshot).Alike (r'.insertSnapshot id snapshot) where
  volumes := h.volumes
  snapshots := congrArg (·.insert id snapshot) h.snapshots
  held := h.held

theorem removeSnapshot (h : r.Alike r') (id : String) :
    (r.removeSnapshot id).Alike (r'.removeSnapshot id) where
  volumes := h.volumes
  snapshots := congrArg (·.erase id) h.snapshots
  held := h.held

theorem release (h : r.Alike r') (name : String) : (r.release name).Alike (r'.release name) where
  volumes := h.volumes
  snapshots := h.snapshots
  held := congrArg (·.filter (· ≠ name)) h.held

theorem inFlight (h : r.Alike r') (name : String) : r'.inFlight name = r.inFlight name := by
  rw [Registry.inFlight, Registry.inFlight, h.held]

/-- A marker is to be had of both or of neither. -/
theorem begin? (h : r.Alike r') (name : String) :
    (r.begin? name = none ∧ r'.begin? name = none) ∨
      ∃ held held', r.begin? name = some held ∧ r'.begin? name = some held' ∧
        held.Alike held' := by
  unfold Registry.begin?
  rw [h.inFlight]
  cases r.inFlight name with
  | true => exact .inl ⟨rfl, rfl⟩
  | false => exact .inr ⟨_, _, rfl, rfl, h.volumes, h.snapshots, congrArg (name :: ·) h.held⟩

end Registry.Alike

namespace RegistrySession

/-- Two sessions that keep the same markers, at registries that are alike. -/
structure Alike (s s' : RegistrySession) : Prop where
  registry : s.registry.Alike s'.registry
  markers : s'.markers = s.markers

namespace Alike

variable {s s' : RegistrySession}

theorem release (h : s.Alike s') (label : String) : (s.release label).Alike (s'.release label) := by
  unfold RegistrySession.release
  rw [h.markers]
  cases s.markers.get? label with
  | none => exact h
  | some name => exact ⟨h.registry.release name, rfl⟩

/-- A marker that is to be had is kept in the place of another at both. -/
theorem begin (h : s.Alike s') (name label : String) :
    (s'.ask (.begin name label)).1 = (s.ask (.begin name label)).1 ∧
      (s.ask (.begin name label)).2.Alike (s'.ask (.begin name label)).2 := by
  simp only [RegistrySession.ask, RegistrySession.begin?]
  rcases h.registry.begin? name with ⟨hnone, hnone'⟩ | ⟨held, held', hheld, hheld', halike⟩
  · rw [hnone, hnone']
    exact ⟨rfl, h⟩
  · rw [hheld, hheld']
    have hbegun : Alike ⟨held, s.markers⟩ ⟨held', s'.markers⟩ := ⟨halike, h.markers⟩
    have hfreed := hbegun.release label
    exact ⟨rfl, hfreed.registry, congrArg (·.insert label name) hfreed.markers⟩

/-- **Step.**  A request has the same reply at both, and leaves them alike. -/
theorem ask (h : s.Alike s') (request : RegistryRequest) :
    (s'.ask request).1 = (s.ask request).1 ∧ (s.ask request).2.Alike (s'.ask request).2 := by
  cases request with
  | insertIfAbsent volume =>
      exact ⟨by simp only [RegistrySession.ask, h.registry.volumes],
        h.registry.insertIfAbsent volume, h.markers⟩
  | insert volume => exact ⟨rfl, h.registry.insert volume, h.markers⟩
  | volume name => exact ⟨congrArg RegistryReply.volume (h.registry.volumes name), h⟩
  | setBackupName name backupName => exact ⟨rfl, h.registry.modify name _, h.markers⟩
  | setBackupStatus name status => exact ⟨rfl, h.registry.modify name _, h.markers⟩
  | setRestoreStatus name status => exact ⟨rfl, h.registry.modify name _, h.markers⟩
  | backupStatus name =>
      exact ⟨by simp only [RegistrySession.ask, Registry.backupStatus?, h.registry.volumes], h⟩
  | restoreStatus name =>
      exact ⟨by simp only [RegistrySession.ask, Registry.restoreStatus?, h.registry.volumes], h⟩
  | insertSnapshot id snapshot => exact ⟨rfl, h.registry.insertSnapshot id snapshot, h.markers⟩
  | snapshot id =>
      exact ⟨by simp only [RegistrySession.ask, Registry.snapshot?, h.registry.snapshots], h⟩
  | removeSnapshot id =>
      exact ⟨by simp only [RegistrySession.ask, Registry.snapshot?, h.registry.snapshots],
        h.registry.removeSnapshot id, h.markers⟩
  | begin name label => exact h.begin name label
  | release label =>
      exact ⟨by simp only [RegistrySession.ask, h.markers], h.release label⟩
  | inFlight name => exact ⟨congrArg RegistryReply.truth (h.registry.inFlight name), h⟩

/-- **Run.**  Whatever is asked of both, the replies are the same. -/
theorem askAll (h : s.Alike s') (requests : List RegistryRequest) :
    s'.askAll requests = s.askAll requests := by
  induction requests generalizing s s' with
  | nil => rfl
  | cons request more ih =>
      obtain ⟨hreply, halike⟩ := h.ask request
      simp only [RegistrySession.askAll, hreply, ih halike]

end Alike

end RegistrySession

end SnapshotEngine
