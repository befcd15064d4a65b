import SnapshotEngine.Text.Utf8

/-!
# Requests and replies

A request goes to a host; either nobody there receives it, or it is received
and no complete answer comes back, or the answer is a code with a body.
-/

namespace SnapshotEngine

/-- What a request is for. -/
inductive HttpMethod where
  | get
  | post
  | delete
deriving DecidableEq, Repr, Inhabited

/-- The word for a method. -/
def HttpMethod.word : HttpMethod → String
  | .get => "GET"
  | .post => "POST"
  | .delete => "DELETE"

/-- A request, as the host receives it. -/
structure HttpRequest where
  method : HttpMethod
  /-- The path and query. -/
  target : String
  /-- What the body is, if there is one. -/
  contentType : Option String
  body : Bytes
deriving DecidableEq, Repr, Inhabited

/-- What comes of a request. -/
inductive HttpReply where
  /-- Nobody received it. -/
  | refused
  /-- It was received, but no complete answer came back in time. -/
  | lost
  | complete (code : Nat) (body : Bytes)
deriving DecidableEq, Repr, Inhabited

/-- The code of success. -/
def HttpReply.successCode : Nat := 200

end SnapshotEngine
