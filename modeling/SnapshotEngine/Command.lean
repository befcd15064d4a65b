/-!
# Commands

A command is a program with arguments.  It runs to an end, with an exit code
unless it was killed, or it cannot be started at all.  Only the exit code zero
is success.
-/

namespace SnapshotEngine

/-- A program and its arguments. -/
structure Command where
  program : String
  arguments : List String
deriving DecidableEq, Repr, Inhabited

/-- How a command ended: its exit code, or none if it was killed, and what it
wrote. -/
structure CommandResult where
  code : Option Int
  output : String
  errors : String
deriving DecidableEq, Repr, Inhabited

/-- Only the exit code zero is success. -/
def CommandResult.isSuccess (r : CommandResult) : Bool := r.code == some 0

/-- A command that could not be started. -/
structure SpawnError where
  program : String
  detail : String
deriving DecidableEq, Repr, Inhabited

/-- The message of a command that could not be started. -/
def SpawnError.message (e : SpawnError) : String :=
  "failed to spawn " ++ e.program ++ ": " ++ e.detail

/-- What comes of a command. -/
abbrev CommandOutcome := Except SpawnError CommandResult

/-- Whether a command was started and succeeded. -/
def CommandOutcome.succeeded : CommandOutcome → Bool
  | .ok result => result.isSuccess
  | .error _ => false

theorem CommandOutcome.succeeded_iff {outcome : CommandOutcome} :
    CommandOutcome.succeeded outcome ↔ ∃ r, outcome = .ok r ∧ r.code = some 0 := by
  cases outcome with
  | error e => simp [succeeded]
  | ok r => simp [succeeded, CommandResult.isSuccess]

end SnapshotEngine
