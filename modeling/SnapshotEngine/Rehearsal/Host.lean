import SnapshotEngine.Command
import SnapshotEngine.Rehearsal.Shell.Run
import SnapshotEngine.Text.Utf8

/-!
# A host that runs programs

The host of a rehearsal has a shell and the programs that its scripts may run, among
them one that always succeeds and one that always fails.  Every other name is that of
no program.  A name or an argument that holds the character with the code zero cannot
be handed over.
-/

namespace SnapshotEngine.Host

/-- The bytes of a text as characters with codes below 256. -/
def narrow (s : String) : List Char :=
  (Utf8.encode s).map fun b => Char.ofNat b.toNat

/-- The text of bytes that are given as characters. -/
def widen (cs : List Char) : String :=
  Utf8.decodeLossy (cs.map fun c => UInt8.ofNat c.toNat)

/-- How a shell has ended. -/
def ofShell (s : Shell.State) : CommandResult where
  code := match s.halt with
    | some (.killed _) => none
    | _ => some (s.status % 256)
  output := widen s.output.reverse.flatten
  errors := widen s.errors.reverse.flatten

/-- Whether a text holds the character with the code zero. -/
def hasNull (s : String) : Bool := s.toList.contains (Char.ofNat 0)

/-- The longest name in a directory. -/
def longestName : Nat := 255

/-- The longest path. -/
def longestPath : Nat := 4095

/-- Why the parts of a path lead to no program from a directory on. -/
def refusal (s : Shell.State) (above : List Char) : List (List Char) → String
  | [] => "Permission denied (os error 13)"
  | part :: more =>
      let path := above ++ '/' :: part
      if longestName < part.length then "File name too long (os error 36)"
      else if (s.kindOf path).isNone then "No such file or directory (os error 2)"
      else refusal s path more

/-- Why a name leads to no program. -/
def reasonAgainst (s : Shell.State) (program : List Char) : String :=
  if longestPath < program.length then "File name too long (os error 36)"
  else if program = ['.'] || program = ['.', '.'] then "Permission denied (os error 13)"
  else if program.head? = some '/' then refusal s [] (program.drop 1 |>.splitOn '/')
  else if !program.contains '/' && longestName < program.length then
    "File name too long (os error 36)"
  else "No such file or directory (os error 2)"

/-- Runs a command. -/
def run (command : Command) : CommandOutcome :=
  if hasNull command.program || command.arguments.any hasNull then
    .error ⟨command.program, "nul byte found in provided data"⟩
  else
    let name := narrow command.program
    let arguments := command.arguments.map narrow
    let s := Shell.State.start name
    match s.programOf? name with
    | some "sh" | some "dash" => .ok (ofShell (Shell.runCall name arguments))
    | some "true" => .ok ⟨some 0, "", ""⟩
    | some "false" => .ok ⟨some 1, "", ""⟩
    | some _ => .ok (ofShell (Shell.runProgram Shell.plenty s name arguments))
    | none => .error ⟨command.program, reasonAgainst s name⟩

end SnapshotEngine.Host
