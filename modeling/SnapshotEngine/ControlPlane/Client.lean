import SnapshotEngine.ControlPlane.Error
import SnapshotEngine.Http
import SnapshotEngine.Job.Request
import SnapshotEngine.Job.Status
import SnapshotEngine.Json.Writer
import SnapshotEngine.Url
import SnapshotEngine.Volume

/-!
# The client of the control plane

The control plane keeps its jobs in two collections, one for backups and one for
restores.  A job is ordered with a JSON body; it is asked after, or deleted, by
its name below the collection, with the volume and the namespace in the query.

Only a complete answer with the code of success is success.  Of its body only
the status of a job is ever looked at: the field `status` of an object, or the
only item of an array, and a job without a status is pending.

* `read_eq_ok_iff` — what counts as success.
-/

namespace SnapshotEngine

/-- The status of a job that an answer shows: of an object the field `status`,
which must not occur twice, of an array the only item.  A job without a status
is pending. -/
def JobStatus.ofJob? : Json → Option JobStatus
  | .array [] => some .pending
  | .array [item] => JobStatus.ofJson? item
  | .object fields =>
      if fields.all fun field => (Json.bodyText? field.1).isSome then
        match fields.filter fun field => Json.bodyText? field.1 = some "status" with
        | [] => some .pending
        | [field] => JobStatus.ofJson? field.2
        | _ => none
      else none
  | _ => none

namespace JobKind

/-- The collection of the jobs of a kind. -/
def collection : JobKind → String
  | .backup => "/latest/backups/"
  | .restore => "/latest/restore/"

end JobKind

/-- The body of an order for a backup. -/
def BackupRequest.toJson (r : BackupRequest) : Json :=
  .ofFields [
    ("metadata", .ofFields [("namespace", .ofText r.claimNamespace)]),
    ("spec", .ofFields [
      ("backupName", .ofText r.seriesName),
      ("volumeName", .ofText r.volumeId),
      ("snapName", .ofText r.backupName),
      ("backupDest", .ofText r.destination)])]

/-- The body of an order for a restore. -/
def RestoreRequest.toJson (r : RestoreRequest) : Json :=
  .ofFields [
    ("metadata", .ofFields [("namespace", .ofText r.claimNamespace)]),
    ("spec", .ofFields [
      ("restoreName", .ofText r.backupName),
      ("volumeName", .ofText r.volumeId),
      ("restoreSrc", .ofText r.source)])]

/-- A client of the control plane: the URL that all requests start with. -/
structure ControlPlaneClient where
  baseUrl : String
deriving DecidableEq, Repr, Inhabited

/-- What a call of the client comes to, and the request that was received for
it, if any was. -/
structure Exchange (α : Type) where
  result : Except ControlPlaneError α
  received : Option HttpRequest

namespace ControlPlaneClient

/-- The client for a URL; slashes at the end of the URL are dropped. -/
def ofUrl (url : String) : ControlPlaneClient :=
  ⟨String.ofList (Text.stripEnd (· = '/') url.toList)⟩

/-- The URL of a path below the base. -/
def url? (c : ControlPlaneClient) (path : String) : Option Url :=
  Url.parse? (c.baseUrl ++ path)

/-- The body of a complete answer with the code of success. -/
def read : HttpReply → Except ControlPlaneError Bytes
  | .refused => .error (.unreachable "no connection")
  | .lost => .error (.unreachable "no complete answer")
  | .complete code body =>
      if code = HttpReply.successCode then .ok body
      else .error (.rejected code (Utf8.decodeLossy body))

/-- The status that the body of an answer shows. -/
def readStatus (body : Bytes) : Except ControlPlaneError JobStatus :=
  match (Json.parse body).bind JobStatus.ofJob? with
  | some status => .ok status
  | none => .error (.undecodable "no job status")

/-- The order for a job, with its body. -/
def order? (c : ControlPlaneClient) (kind : JobKind) (body : Json) : Option HttpRequest :=
  (c.url? kind.collection).map fun url =>
    { method := .post
      target := url.target
      contentType := some "application/json"
      body := body.render }

/-- The request about a job that has a name. -/
def about? (c : ControlPlaneClient) (method : HttpMethod) (kind : JobKind) (name : String)
    (query : List (String × String)) : Option HttpRequest :=
  (c.url? (kind.collection ++ name)).map fun url =>
    { method := method
      target := (url.withPairs query).target
      contentType := none
      body := [] }

/-- The request that deletes a backup. -/
def deletion? (c : ControlPlaneClient) (volumeId name claimNamespace : String) :
    Option HttpRequest :=
  c.about? .delete .backup name
    [("volume", volumeId), ("namespace", claimNamespace), ("casType", engineName)]

/-- The question after a job. -/
def query? (c : ControlPlaneClient) (job : JobHandle) : Option HttpRequest :=
  c.about? .get job.kind job.name
    [("volume", job.volumeId), ("namespace", job.claimNamespace)]

/-- Sends a request, if there is one to send, and reads the answer. -/
def send {α : Type} (transport : HttpRequest → HttpReply)
    (request : Option HttpRequest) (look : Bytes → Except ControlPlaneError α) : Exchange α :=
  match request with
  | none => { result := .error (.unreachable "no usable URL"), received := none }
  | some request =>
      let reply := transport request
      { result := (read reply).bind look
        received := if reply = .refused then none else some request }

/-- Orders a backup. -/
def createBackup (c : ControlPlaneClient) (transport : HttpRequest → HttpReply)
    (request : BackupRequest) : Exchange JobHandle :=
  send transport (c.order? .backup request.toJson) fun _ => .ok request.job

/-- Orders a restore. -/
def createRestore (c : ControlPlaneClient) (transport : HttpRequest → HttpReply)
    (request : RestoreRequest) : Exchange JobHandle :=
  send transport (c.order? .restore request.toJson) fun _ => .ok request.job

/-- Deletes a backup. -/
def deleteBackup (c : ControlPlaneClient) (transport : HttpRequest → HttpReply)
    (volumeId name claimNamespace : String) : Exchange Unit :=
  send transport (c.deletion? volumeId name claimNamespace) fun _ => .ok ()

/-- Asks after a job. -/
def jobStatus (c : ControlPlaneClient) (transport : HttpRequest → HttpReply)
    (job : JobHandle) : Exchange JobStatus :=
  send transport (c.query? job) readStatus

/-- Only a complete answer with the code of success is success. -/
theorem read_eq_ok_iff {reply : HttpReply} {body : Bytes} :
    read reply = .ok body ↔ reply = .complete HttpReply.successCode body := by
  cases reply with
  | refused => simp [read]
  | lost => simp [read]
  | complete code found =>
      by_cases h : code = HttpReply.successCode <;> simp [read, h]

end ControlPlaneClient

end SnapshotEngine
