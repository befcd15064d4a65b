import SnapshotEngine.Duration
import SnapshotEngine.ObjectName

/-!
# Settings of the engine

Where the data mover listens, how often a job is asked after, how long an
operation may take, how long a job may take to report its end once the data has
moved, and how objects are named.
-/

namespace SnapshotEngine

/-- What the operations of an engine go by. -/
structure Settings where
  /-- The address of the data mover: where backups are sent and restores come
  from. -/
  serverAddr : String
  /-- How long to wait between two questions after a job. -/
  pollInterval : Duration
  /-- How long a transfer and its confirmation may take together. -/
  operationTimeout : Duration
  /-- How long a job may take to report its end once the data has moved. -/
  confirmGrace : Duration
  namer : ObjectNamer
deriving DecidableEq, Repr, Inhabited

namespace Settings

/-- How long to wait between two questions unless set otherwise. -/
def defaultPollInterval : Duration := .ofSecs 5

/-- How long an operation may take unless set otherwise. -/
def defaultOperationTimeout : Duration := .ofSecs 3600

/-- How long the end of a job is waited for unless set otherwise. -/
def defaultConfirmGrace : Duration := .ofSecs 30

/-- The settings for an address, all else as by default. -/
def default (serverAddr : String) : Settings where
  serverAddr := serverAddr
  pollInterval := defaultPollInterval
  operationTimeout := defaultOperationTimeout
  confirmGrace := defaultConfirmGrace
  namer := .plain

end Settings

end SnapshotEngine
