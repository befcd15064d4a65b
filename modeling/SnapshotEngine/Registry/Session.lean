import SnapshotEngine.Registry

/-!
# A session at the registry

A session asks a registry for one thing after another and keeps the markers that
it is given under labels of its own.  A label has room for one marker: a marker
that is put where another was releases that other one.
-/

namespace SnapshotEngine

/-- A registry, and the volumes whose markers a session keeps, by label. -/
structure RegistrySession where
  registry : Registry
  markers : Table String String
deriving Inhabited

/-- What a session may ask of the registry. -/
inductive RegistryRequest where
  | insertIfAbsent (volume : Volume)
  | insert (volume : Volume)
  | volume (name : String)
  | setBackupName (name backupName : String)
  | setBackupStatus (name : String) (status : JobStatus)
  | setRestoreStatus (name : String) (status : JobStatus)
  | backupStatus (name : String)
  | restoreStatus (name : String)
  | insertSnapshot (id : String) (snapshot : Snapshot)
  | snapshot (id : String)
  | removeSnapshot (id : String)
  /-- Take the marker of a volume and keep it under a label. -/
  | begin (name label : String)
  /-- Release the marker that is kept under a label. -/
  | release (label : String)
  | inFlight (name : String)
deriving DecidableEq, Repr, Inhabited

/-- What the registry replies. -/
inductive RegistryReply where
  | done
  | truth (value : Bool)
  | volume (found : Option Volume)
  | status (found : Option JobStatus)
  | snapshot (found : Option Snapshot)
deriving DecidableEq, Repr, Inhabited

namespace RegistrySession

/-- A session that keeps no marker yet. -/
def ofRegistry (r : Registry) : RegistrySession := ⟨r, .empty⟩

/-- Releases the marker that is kept under a label. -/
def release (s : RegistrySession) (label : String) : RegistrySession :=
  match s.markers.get? label with
  | some name =>
      { registry := s.registry.release name, markers := s.markers.erase label }
  | none => s

/-- Takes the marker of a volume and keeps it under a label; the marker that was
there is released then. -/
def begin? (s : RegistrySession) (name label : String) : Option RegistrySession :=
  (s.registry.begin? name).map fun held =>
    let freed := { s with registry := held }.release label
    { freed with markers := freed.markers.insert label name }

/-- Grants a request. -/
def ask (s : RegistrySession) : RegistryRequest → RegistryReply × RegistrySession
  | .insertIfAbsent volume =>
      (.truth (s.registry.volume? volume.name).isNone,
        { s with registry := s.registry.insertIfAbsent volume })
  | .insert volume => (.done, { s with registry := s.registry.insert volume })
  | .volume name => (.volume (s.registry.volume? name), s)
  | .setBackupName name backupName =>
      (.done, { s with registry := s.registry.setBackupName name backupName })
  | .setBackupStatus name status =>
      (.done, { s with registry := s.registry.setBackupStatus name status })
  | .setRestoreStatus name status =>
      (.done, { s with registry := s.registry.setRestoreStatus name status })
  | .backupStatus name => (.status (s.registry.backupStatus? name), s)
  | .restoreStatus name => (.status (s.registry.restoreStatus? name), s)
  | .insertSnapshot id snapshot =>
      (.done, { s with registry := s.registry.insertSnapshot id snapshot })
  | .snapshot id => (.snapshot (s.registry.snapshot? id), s)
  | .removeSnapshot id =>
      (.snapshot (s.registry.snapshot? id),
        { s with registry := s.registry.removeSnapshot id })
  | .begin name label =>
      match s.begin? name label with
      | some next => (.truth true, next)
      | none => (.truth false, s)
  | .release label => (.truth (s.markers.contains label), s.release label)
  | .inFlight name => (.truth (s.registry.inFlight name), s)

/-- The replies to a list of requests. -/
def askAll (s : RegistrySession) : List RegistryRequest → List RegistryReply
  | [] => []
  | request :: more =>
      let answer := s.ask request
      answer.1 :: answer.2.askAll more

end RegistrySession

end SnapshotEngine
