import SnapshotEngine.Rehearsal.Directory
import SnapshotEngine.Rehearsal.World
import SnapshotEngine.Wiring

/-!
# A site that is wired up

An engine that is wired up by its configuration, with a directory in memory:
calls become requests and commands, all of which take no time, and both are
recorded.
-/

namespace SnapshotEngine

/-- The collaborators of an engine that is wired up. -/
structure Site where
  wiring : Wiring
  surroundings : Surroundings
  directory : MemoryDirectory
  /-- The requests that were received. -/
  requests : List HttpRequest
  /-- The commands that were run. -/
  commands : List Command

namespace Site

/-- A site of which nothing was asked yet. -/
def ofWiring (wiring : Wiring) (surroundings : Surroundings) (directory : MemoryDirectory) :
    Site where
  wiring := wiring
  surroundings := surroundings
  directory := directory
  requests := []
  commands := []

/-- Records what was seen of a call or a question. -/
def note {α : Type} (s : Site) (p : Performed α) : α × Site :=
  (p.answer,
    { s with requests := s.requests ++ p.requests, commands := s.commands ++ p.commands })

/-- The answer to a call. -/
def answer? (s : Site) (call : Call) : Option (Answer × Site) :=
  match call with
  | .preserveClaim volume =>
      let (result, directory) := s.directory.preserve volume
      some (.preserved result, { s with directory := directory })
  | .provision volumeId backupName =>
      let (result, directory) := s.directory.provision volumeId backupName
      some (.provisioned result, { s with directory := directory })
  | .claimNamespace volumeId => some (.located (s.directory.locate volumeId), s)
  | _ => (s.wiring.perform s.surroundings call).map s.note

/-- A site as the collaborators of an engine. -/
def backend : Backend Site where
  callDelay _ _ := 0
  arrive s _ := s
  answer? := answer?
  queryDelay _ := 0
  ask? s job := some (s.note (s.wiring.ask s.surroundings job))

end Site

/-- Carries an order out at a site; the world afterwards, and how the operation
ended. -/
def World.carryOut (w : World Site) (order : Order) : Option Ending × World Site :=
  let id := w.engine.next
  let started := w.order Site.backend w.site.wiring.settings order none
  let after := started.runUntilOver Site.backend [id]
  (after.endings.get? id, after)

end SnapshotEngine
