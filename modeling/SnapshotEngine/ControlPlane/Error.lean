/-!
# Why the control plane did not do as asked

Either no answer came back, or the answer was a refusal, or it could not be
understood; and a client that cannot be set up asks nothing at all.
-/

namespace SnapshotEngine

/-- Why the control plane did not do as asked. -/
inductive ControlPlaneError where
  /-- No answer came back. -/
  | unreachable (detail : String)
  /-- The answer was a refusal, with its code and body. -/
  | rejected (code : Nat) (body : String)
  /-- The answer could not be understood. -/
  | undecodable (detail : String)
  /-- The client could not be set up. -/
  | unusableClient (detail : String)
deriving DecidableEq, Repr, Inhabited

namespace ControlPlaneError

/-- The message of a control plane error. -/
def message : ControlPlaneError → String
  | .unreachable detail => "control plane unreachable: " ++ detail
  | .rejected code body =>
      "control plane rejected request with HTTP " ++ toString code ++ ": " ++ body
  | .undecodable detail => "unexpected control plane response: " ++ detail
  | .unusableClient detail => "invalid control plane client configuration: " ++ detail

/-- The code that says that the thing asked for is not there. -/
def notFoundCode : Nat := 404

/-- Whether the answer was that the thing asked for is not there. -/
def isNotFound : ControlPlaneError → Bool
  | .rejected code _ => code == notFoundCode
  | _ => false

end ControlPlaneError

end SnapshotEngine
