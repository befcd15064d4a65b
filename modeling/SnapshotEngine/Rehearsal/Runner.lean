import SnapshotEngine.Transfer.DataMover

/-!
# A runner of commands that follows a script

The results of the commands are set out in advance and given in their order.  A
command for which none is left cannot be started.
-/

namespace SnapshotEngine

/-- The results still to be given. -/
structure ScriptedRunner where
  results : List CommandResult
deriving Repr, Inhabited

namespace ScriptedRunner

/-- A runner without a script. -/
def empty : ScriptedRunner := ⟨[]⟩

/-- Sets another result out. -/
def push (r : ScriptedRunner) (result : CommandResult) : ScriptedRunner :=
  ⟨r.results ++ [result]⟩

/-- The result of a command that succeeds without a word. -/
def success : CommandResult := ⟨some 0, "", ""⟩

/-- The result of a command that ends with an exit code of its own. -/
def failure (code : Int) : CommandResult := ⟨some code, "", "simulated failure"⟩

/-- Runs a command. -/
def run (r : ScriptedRunner) (command : Command) : CommandOutcome × ScriptedRunner :=
  match r.results with
  | result :: later => (.ok result, ⟨later⟩)
  | [] => (.error ⟨command.program, "no scripted response available"⟩, r)

/-- Has a data mover act on an object; what came of it. -/
def move (r : ScriptedRunner) (mover : DataMover) (action : TransferAction) (object : String) :
    Except TransferError Unit × ScriptedRunner :=
  let (outcome, later) := r.run (mover.command action object)
  (action.outcome object outcome.succeeded, later)

end ScriptedRunner

end SnapshotEngine
