/-!
# Moving data

The object store moves the data of a backup in and out and removes it again.
Whatever goes wrong there, all that is known of it is that it did.
-/

namespace SnapshotEngine

/-- What is done with an object. -/
inductive TransferAction where
  | upload
  | download
  | delete
deriving DecidableEq, Repr, Inhabited

/-- The word for an action, in messages and on the command line of the data
mover. -/
def TransferAction.word : TransferAction → String
  | .upload => "upload"
  | .download => "download"
  | .delete => "delete"

/-- An action on an object that failed. -/
structure TransferError where
  action : TransferAction
  object : String
deriving DecidableEq, Repr, Inhabited

/-- The message of a transfer error. -/
def TransferError.message (e : TransferError) : String :=
  e.action.word ++ " of " ++ e.object ++ " failed"

/-- What the object store's word on an action comes to. -/
def TransferAction.outcome (action : TransferAction) (object : String) (done : Bool) :
    Except TransferError Unit :=
  if done then .ok () else .error ⟨action, object⟩

end SnapshotEngine
