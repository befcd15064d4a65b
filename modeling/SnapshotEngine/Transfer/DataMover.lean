import SnapshotEngine.Command
import SnapshotEngine.Transfer

/-!
# The data mover

The data mover is a program.  To move an object in or out it is told the object
and the address at which the data of the volume is served; to delete an object
the object is enough.
-/

namespace SnapshotEngine

/-- A data mover: the program, and the address that it serves data at. -/
structure DataMover where
  program : String
  address : String
deriving DecidableEq, Repr, Inhabited

/-- Whether an action moves data, and so needs an address. -/
def TransferAction.streams : TransferAction → Bool
  | .upload | .download => true
  | .delete => false

namespace DataMover

/-- The command for an action on an object. -/
def command (m : DataMover) (action : TransferAction) (object : String) : Command where
  program := m.program
  arguments :=
    action.word :: object :: if action.streams then ["--listen", m.address] else []

end DataMover

end SnapshotEngine
