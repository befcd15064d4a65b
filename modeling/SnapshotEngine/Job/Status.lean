import SnapshotEngine.Json.Reader

/-!
# Job status

The control plane runs backups and restores as jobs.  A job is pending until
the storage targets pick it up, in progress while data moves, and then done,
failed or invalid for good.  Only `done` is success.  The control plane may say
`Init` for a pending job, and any name that this library does not know counts
as unknown.

* `ofWireName_name` — a status is known by its name;
* `isSuccess_iff`, `ite_isSuccess` — success is `done`, and nothing else.
-/

namespace SnapshotEngine

/-- What the control plane last said of a job. -/
inductive JobStatus where
  | pending
  | inProgress
  | done
  | failed
  | invalid
  | unknown
deriving DecidableEq, Repr, Inhabited

namespace JobStatus

/-- The name of a status, in messages and on the wire. -/
def name : JobStatus → String
  | .pending => "Pending"
  | .inProgress => "InProgress"
  | .done => "Done"
  | .failed => "Failed"
  | .invalid => "Invalid"
  | .unknown => "Unknown"

/-- All statuses. -/
def all : List JobStatus := [.pending, .inProgress, .done, .failed, .invalid, .unknown]

/-- The status with the given name. -/
def named? (s : String) : Option JobStatus :=
  all.find? fun status => status.name == s

/-- The status that the control plane means by a name. -/
def ofWireName (s : String) : JobStatus :=
  if s = "Init" then .pending else (named? s).getD .unknown

/-- A job does not leave a terminal status. -/
def isTerminal : JobStatus → Bool
  | .done | .failed | .invalid => true
  | .pending | .inProgress | .unknown => false

/-- Only a job that is done has succeeded. -/
def isSuccess : JobStatus → Bool
  | .done => true
  | _ => false

/-- The status that a JSON value stands for: a string, or an object whose only
field is null and has the name as its key. -/
def ofJson? : Json → Option JobStatus
  | .string body => (Json.bodyText? body).map ofWireName
  | .object [(key, .null)] => (Json.bodyText? key).map ofWireName
  | _ => none

/-- The JSON value of a status. -/
def toJson (status : JobStatus) : Json := Json.ofText status.name

/-- The status that a JSON text stands for. -/
def decode? (bs : Bytes) : Option JobStatus :=
  (Json.parse bs).bind ofJson?

/-- On the wire too. -/
theorem ofWireName_name (status : JobStatus) : ofWireName status.name = status := by
  cases status <;> decide

/-- Only `done` is success. -/
theorem isSuccess_iff {status : JobStatus} : status.isSuccess ↔ status = .done := by
  cases status <;> simp [isSuccess]

/-- Whatever is done on success alone is done of a status that is `done`, and what is done
else of any other. -/
theorem ite_isSuccess {α : Type} (status : JobStatus) (yes no : α) :
    (status = .done ∧ (if status.isSuccess then yes else no) = yes) ∨
      (status ≠ .done ∧ (if status.isSuccess then yes else no) = no) := by
  by_cases hdone : status = .done
  · exact .inl ⟨hdone, if_pos (isSuccess_iff.mpr hdone)⟩
  · exact .inr ⟨hdone, if_neg fun h => hdone (isSuccess_iff.mp h)⟩

end JobStatus

end SnapshotEngine
