import SnapshotEngine.Rehearsal.Shell.Field
import SnapshotEngine.Rehearsal.Shell.Invocation
import SnapshotEngine.Rehearsal.Shell.Trial

/-!
# A shell while it runs

What belongs to one shell, such as its variables, is its scope: a part of a script
that runs apart has a scope of its own, which is given up when the part ends.  What
was written, the files, and the jobs are shared by all of them.
-/

namespace SnapshotEngine.Shell

/-- Where a stream leads. -/
inductive Sink where
  | output
  | errors
  /-- To the text that is captured at a depth. -/
  | captured (depth : Nat)
  | file (path : List Char)
  | nowhere
deriving DecidableEq, Repr, Inhabited

/-- Why a shell runs no further commands for now. -/
inductive Halt where
  /-- The script was told to end. -/
  | exited
  /-- The shell was killed by a signal. -/
  | killed (signal : Nat)
  /-- A function is to be left. -/
  | returned
  /-- That many loops are to be left. -/
  | leaving (loops : Nat)
  /-- That many loops are to be left, but for the last, which goes on. -/
  | skipping (loops : Nat)
deriving DecidableEq, Repr, Inhabited

/-- What belongs to one shell. -/
structure Scope where
  /-- What the script calls itself. -/
  name : List Char
  arguments : List (List Char)
  /-- The number by which the script knows the shell it runs in. -/
  process : Nat
  /-- Whether this is a part of that shell that runs apart. -/
  isApart : Bool
  bindings : Variables
  /-- The names whose values programs are given. -/
  exported : List (List Char)
  /-- The names whose values must not change. -/
  fixed : List (List Char)
  functions : Table (List Char) Node
  options : List Char
  directory : List Char
  streams : Table Nat Sink
  /-- What is done at a signal; at the end for the number zero. -/
  traps : Table Nat (List Char)
  /-- The last job that was started. -/
  lastJob : Option Nat
  /-- The line that runs. -/
  line : Nat
  /-- The command that stands in front of complaints. -/
  within : String
  /-- How many loops run. -/
  loops : Nat
  /-- Whether the failure of a command is expected. -/
  isTested : Bool
  /-- The values of names before they became local; nothing outside of functions. -/
  saved : Option (List (List Char × Option (List Char)))
deriving Inhabited

/-- A command that the script does not wait for. -/
structure ShellJob where
  number : Nat
  scope : Scope
  body : Node
deriving Inhabited

/-- What is captured while it is written. -/
structure Captured where
  /-- What was written, the last piece first. -/
  pieces : List (List Char)
  count : Nat
  /-- Whether it is for a command that reads it. -/
  isPipe : Bool
deriving Inhabited

/-- How many pieces a command is ready to read. -/
def pipeSize : Nat := 100000

/-- How a job has ended. -/
inductive JobEnd where
  | code (n : Nat)
  | signal (n : Nat)
deriving DecidableEq, Repr, Inhabited

/-- A shell while it runs. -/
structure State extends Scope where
  /-- The code with which the last command ended. -/
  status : Nat
  /-- The code of the last script that was run for its output. -/
  captureStatus : Option Nat
  /-- What is still to be read. -/
  input : List Char
  /-- What was written, the last piece first. -/
  output : List (List Char)
  errors : List (List Char)
  /-- The texts that are captured, the innermost first. -/
  captures : List Captured
  /-- What was written to files, the last piece first. -/
  files : Table (List Char) (List (List Char))
  /-- The jobs that have not run. -/
  jobs : List ShellJob
  finished : Table Nat JobEnd
  /-- The signals that were sent to shells further out, with their numbers. -/
  sent : List (Nat × Nat)
  /-- What is to be done because of signals. -/
  pending : List (List Char)
  halt : Option Halt
deriving Inhabited

namespace State

/-- A shell that has not been given a script. -/
def start (name : List Char) : State where
  name := name
  arguments := []
  process := 2
  isApart := false
  bindings := .empty
  exported := []
  fixed := []
  functions := .empty
  options := []
  directory := ['/']
  streams := .ofList [(1, .output), (2, .errors)]
  traps := .empty
  lastJob := none
  line := 0
  within := ""
  loops := 0
  isTested := false
  saved := none
  status := 0
  captureStatus := none
  input := []
  output := []
  errors := []
  captures := []
  files := .empty
  jobs := []
  finished := .empty
  sent := []
  pending := []
  halt := none

/-- Whether an option is set. -/
def has (s : State) (option : Char) : Bool := s.options.contains option

/-! ## Writing -/

/-- Writes a piece to where a stream leads. -/
def writeTo (s : State) (sink : Sink) (piece : List Char) : State :=
  match sink with
  | .output => { s with output := piece :: s.output }
  | .errors => { s with errors := piece :: s.errors }
  | .captured depth =>
      let place := s.captures.length - depth
      let isFull := s.captures[place]?.any fun c => c.isPipe && pipeSize ≤ c.count
      { s with
        captures := s.captures.modify place fun c =>
          { c with pieces := piece :: c.pieces, count := c.count + 1 }
        halt := if isFull && s.halt.isNone then some .exited else s.halt }
  | .file path => { s with files := s.files.insert path (piece :: (s.files.get? path).getD []) }
  | .nowhere => s

/-- Writes a piece to a stream; a closed one swallows it. -/
def writeOn (s : State) (stream : Nat) (piece : List Char) : State :=
  if piece.isEmpty then s else s.writeTo ((s.streams.get? stream).getD .nowhere) piece

/-- Writes to the output. -/
def write (s : State) (piece : List Char) : State := s.writeOn 1 piece

/-- Ends a command with a code. -/
def ended (s : State) (status : Nat) : State := { s with status := status }

/-- What stands in front of a complaint. -/
def place (s : State) : List Char :=
  s.name ++ ": ".toList ++ Nat.toDigits 10 s.line ++ ": ".toList

/-- Ends a command with a complaint and a code. -/
def complain (s : State) (complaint : String) (status : Nat) : State :=
  (s.writeOn 2 (s.place ++ complaint.toList ++ ['\n'])).ended status

/-- Ends the script with a complaint. -/
def abort (s : State) (complaint : String) : State :=
  { s.complain complaint 2 with halt := some .exited }

/-- Begins to capture what is written. -/
def capture (s : State) (isPipe : Bool) : State :=
  { s with
    captures := ⟨[], 0, isPipe⟩ :: s.captures
    streams := s.streams.insert 1 (.captured (s.captures.length + 1)) }

/-- Ends capturing, and returns what was captured. -/
def release (s : State) : List Char × State :=
  (((s.captures.head?.map (·.pieces)).getD []).reverse.flatten,
    { s with captures := s.captures.drop 1 })

/-! ## Values -/

/-- The parameters that are not variables. -/
def special? (s : State) (name : List Char) : Option (Option (List Char)) :=
  match name with
  | ['?'] => some (some (Nat.toDigits 10 s.status))
  | ['#'] => some (some (Nat.toDigits 10 s.arguments.length))
  | ['$'] => some (some (Nat.toDigits 10 s.process))
  | ['!'] => some (s.lastJob.map fun n => Nat.toDigits 10 n)
  | ['-'] => some (some (ordered s.options))
  | ['@'] | ['*'] =>
      some (if s.arguments.isEmpty then none else some (List.intercalate [' '] s.arguments))
  | _ =>
      if name.all Char.isDigit then
        match digitsIn 10 name with
        | some (n + 1) => some s.arguments[n]?
        | _ => some (some s.name)
      else none

/-- The value of a parameter, if it has one. -/
def parameter? (s : State) (name : List Char) : Option (List Char) :=
  match s.special? name with
  | some value => value
  | none => s.bindings.get? name

/-- The characters at which values are taken apart. -/
def separators (s : State) : List Char := (s.bindings.get? "IFS".toList).getD usualSeparators

/-- What stands between all arguments in one text. -/
def between (s : State) : List Char := s.separators.take 1

/-- Gives a name a value; the script ends if that must not change. -/
def assign (s : State) (name value : List Char) : State :=
  if s.fixed.contains name then s.abort (s.within ++ String.ofList name ++ ": is read only")
  else
    let exported := if s.has 'a' then name :: s.exported else s.exported
    { s with bindings := s.bindings.insert name value, exported := exported }

/-- Gives a name the value it had before. -/
def restore (s : State) (name : List Char) (value : Option (List Char)) : State :=
  match value with
  | some value => { s with bindings := s.bindings.insert name value }
  | none => { s with bindings := s.bindings.erase name }

/-! ## Paths -/

/-- The directories that are always there. -/
def directories : List String :=
  ["/", "/bin", "/dev", "/etc", "/home", "/lib", "/opt", "/proc", "/root", "/run", "/sbin", "/sys",
    "/tmp", "/usr", "/usr/bin", "/usr/lib", "/usr/local", "/usr/local/bin", "/usr/share", "/var",
    "/var/tmp"]

/-- The devices that are always there. -/
def devices : List String :=
  ["/dev/null", "/dev/zero", "/dev/stdin", "/dev/stdout", "/dev/stderr", "/dev/full",
    "/dev/random", "/dev/urandom"]

/-- A path from the top, without parts that lead nowhere else. -/
def resolve (s : State) (path : List Char) : List Char :=
  let whole := if path.head? = some '/' then path else s.directory ++ '/' :: path
  let step (parts : List (List Char)) (part : List Char) : List (List Char) :=
    if part.isEmpty || part = ['.'] then parts
    else if part = ['.', '.'] then parts.drop 1
    else part :: parts
  let parts := ((whole.splitOn '/').foldl step []).reverse
  '/' :: List.intercalate ['/'] parts

/-- What a path leads to, if it leads anywhere. -/
def kindOf (s : State) (path : List Char) : Option FileKind :=
  let whole := s.resolve path
  let text := String.ofList whole
  if path.isEmpty then none
  else if directories.contains text then some .directory
  else if devices.contains text then some .device
  else (s.files.get? whole).map fun pieces => .regular pieces.flatten.isEmpty

/-- Whether the path of a new file leads into a directory. -/
def hasPlace (s : State) (path : List Char) : Bool :=
  let whole := s.resolve path
  let above := ((whole.reverse.dropWhile (· ≠ '/')).drop 1).reverse
  directories.contains (if above.isEmpty then "/" else String.ofList above)

/-- The text that a path leads to. -/
def readPath (s : State) (path : List Char) : Except String (List Char) :=
  match s.kindOf path with
  | none => .error "No such file or directory"
  | some .directory => .error "Is a directory"
  | some .device => .ok (if path = "/dev/stdin".toList then s.input else [])
  | some (.regular _) => .ok (((s.files.get? (s.resolve path)).getD []).reverse.flatten)

/-! ## Facts -/

end State

end SnapshotEngine.Shell
