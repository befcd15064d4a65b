import SnapshotEngine.Config
import SnapshotEngine.ControlPlane.Client
import SnapshotEngine.Operation.Call
import SnapshotEngine.Poller
import SnapshotEngine.Transfer.DataMover

/-!
# Wiring

A valid configuration wires an engine up: its settings, a client for the control
plane and a data mover.  The data mover serves data at the very address that
backups are sent to and restores come from.

A call to the control plane becomes a request, a transfer becomes a command;
what comes back over the network, and what comes of a command, is given.
-/

namespace SnapshotEngine

/-- Why an engine could not be wired up. -/
inductive SetupError where
  | config (cause : ConfigError)
  | client (cause : ControlPlaneError)
deriving DecidableEq, Repr, Inhabited

namespace SetupError

/-- The message of the failure behind a failure to wire up. -/
def causeMessage : SetupError → String
  | .config cause => cause.message
  | .client cause => cause.message

/-- The message of a failure to wire up. -/
def message : SetupError → String
  | .config cause => "configuration error: " ++ cause.message
  | .client cause => "control plane client error: " ++ cause.message

end SetupError

/-- What an engine is wired to. -/
structure Wiring where
  settings : Settings
  client : ControlPlaneClient
  mover : DataMover
deriving DecidableEq, Repr, Inhabited

/-- Wires an engine up. -/
def Config.wiring (c : Config) : Except SetupError Wiring :=
  match c.settings with
  | .error cause => .error (.config cause)
  | .ok settings =>
      .ok
        { settings := settings
          client := .ofUrl c.url
          mover := { program := Text.trim c.moverProgram, address := settings.serverAddr } }

/-- What lies beyond an engine that is wired up. -/
structure Surroundings where
  /-- What comes of a request. -/
  transport : HttpRequest → HttpReply
  /-- What comes of a command. -/
  run : Command → CommandOutcome

/-- What a call or a question comes to, and what it was seen to do. -/
structure Performed (α : Type) where
  answer : α
  requests : List HttpRequest
  commands : List Command

namespace Wiring

/-- What an exchange with the control plane comes to. -/
def ofExchange {α β : Type} (wrap : Except ControlPlaneError α → β) (e : Exchange α) :
    Performed β where
  answer := wrap e.result
  requests := e.received.toList
  commands := []

/-- Carries a call to the control plane or the data mover out; calls of the
directory are none of these. -/
def perform (w : Wiring) (s : Surroundings) : Call → Option (Performed Answer)
  | .createBackup request =>
      some (ofExchange .accepted (w.client.createBackup s.transport request))
  | .createRestore request =>
      some (ofExchange .accepted (w.client.createRestore s.transport request))
  | .deleteBackup volumeId backupName claimNamespace =>
      some (ofExchange .retracted
        (w.client.deleteBackup s.transport volumeId backupName claimNamespace))
  | .move action object =>
      let command := w.mover.command action object
      some
        { answer := .moved (s.run command).succeeded
          requests := []
          commands := [command] }
  | .preserveClaim _ | .provision _ _ | .claimNamespace _ => none

/-- Asks after a job. -/
def ask (w : Wiring) (s : Surroundings) (job : JobHandle) : Performed PollerSignal :=
  ofExchange .answered (w.client.jobStatus s.transport job)

end Wiring

end SnapshotEngine
