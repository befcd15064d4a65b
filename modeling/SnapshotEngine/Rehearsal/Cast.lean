import SnapshotEngine.Rehearsal.ControlPlane
import SnapshotEngine.Rehearsal.Directory
import SnapshotEngine.Rehearsal.ObjectStore
import SnapshotEngine.Rehearsal.World

/-!
# The cast of a rehearsal

A rehearsal plays the three collaborators of an engine: the control plane, the
object store and the directory.  Commands to the control plane, questions to it,
and uploads and downloads each take a set time to get there; the directory and
deletions of objects take none.
-/

namespace SnapshotEngine

/-- The played collaborators, and how long it takes to reach them. -/
structure Cast where
  plane : ScriptedPlane
  store : MemoryStore
  directory : MemoryDirectory
  commandDelay : Duration
  queryDelay : Duration
  transferDelay : Duration
deriving Inhabited

namespace Cast

/-- The cast without a script, around a directory, each a moment away. -/
def ofDirectory (directory : MemoryDirectory) : Cast where
  plane := .empty
  store := .empty
  directory := directory
  commandDelay := ⟨0⟩
  queryDelay := ⟨0⟩
  transferDelay := ⟨0⟩

/-- How long a call is on its way. -/
def callDelay (c : Cast) : Call → Nat
  | .createBackup _ | .createRestore _ | .deleteBackup _ _ _ => c.commandDelay.nanos
  | .move .upload _ | .move .download _ => c.transferDelay.nanos
  | .move .delete _ | .preserveClaim _ | .provision _ _ | .claimNamespace _ => 0

/-- What a call leaves behind as it arrives: the attempt to move an object is
recorded before it is known what comes of it. -/
def arrive (c : Cast) : Call → Cast
  | .move action object => { c with store := c.store.arrive object action }
  | _ => c

/-- The answer to a call that has arrived, if there is one yet. -/
def answer? (c : Cast) : Call → Option (Answer × Cast)
  | .preserveClaim volume =>
      let (result, directory) := c.directory.preserve volume
      some (.preserved result, { c with directory := directory })
  | .provision volumeId backupName =>
      let (result, directory) := c.directory.provision volumeId backupName
      some (.provisioned result, { c with directory := directory })
  | .claimNamespace volumeId => some (.located (c.directory.locate volumeId), c)
  | .createBackup request =>
      let (result, plane) := c.plane.createBackup request
      some (.accepted result, { c with plane := plane })
  | .createRestore request =>
      let (result, plane) := c.plane.createRestore request
      some (.accepted result, { c with plane := plane })
  | .deleteBackup volumeId backupName claimNamespace =>
      let (result, plane) := c.plane.deleteBackup volumeId backupName claimNamespace
      some (.retracted result, { c with plane := plane })
  | .move action object =>
      (c.store.move object action).map fun (done, store) =>
        (.moved done, { c with store := store })

/-- Answers a question after a job, at once. -/
def ask? (c : Cast) (_job : JobHandle) : Option (PollerSignal × Cast) :=
  let (signal, plane) := c.plane.ask
  some (signal, { c with plane := plane })

/-- The cast as the collaborators of an engine. -/
def backend : Backend Cast where
  callDelay := callDelay
  arrive := arrive
  answer? := answer?
  queryDelay c := c.queryDelay.nanos
  ask? := ask?

end Cast

end SnapshotEngine
