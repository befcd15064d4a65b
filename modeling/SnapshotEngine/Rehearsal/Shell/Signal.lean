import SnapshotEngine.Rehearsal.Shell.State

/-!
# Signals

A shell may send signals to itself and to its jobs.  A signal without an action of
its own ends the one that gets it, unless it is one of the few that do not matter.
-/

namespace SnapshotEngine.Shell

/-- The names of signals, with what is said of one that was ended by them. -/
def signals : List (Nat × String × String) :=
  [(1, "HUP", "Hangup"), (2, "INT", ""), (3, "QUIT", "Quit"), (4, "ILL", "Illegal instruction"),
    (5, "TRAP", "Trace/breakpoint trap"), (6, "ABRT", "Aborted"), (7, "BUS", "Bus error"),
    (8, "FPE", "Floating point exception"), (9, "KILL", "Killed"),
    (10, "USR1", "User defined signal 1"), (11, "SEGV", "Segmentation fault"),
    (12, "USR2", "User defined signal 2"), (13, "PIPE", ""), (14, "ALRM", "Alarm clock"),
    (15, "TERM", "Terminated"), (16, "STKFLT", "Stack fault"), (17, "CHLD", ""), (18, "CONT", ""),
    (19, "STOP", ""), (20, "TSTP", ""), (21, "TTIN", ""), (22, "TTOU", ""), (23, "URG", ""),
    (24, "XCPU", "CPU time limit exceeded"), (25, "XFSZ", "File size limit exceeded"),
    (26, "VTALRM", "Virtual timer expired"), (27, "PROF", "Profiling timer expired"),
    (28, "WINCH", ""), (29, "IO", "I/O possible"), (30, "PWR", "Power failure"),
    (31, "SYS", "Bad system call")]

/-- The number of a signal, by number or name. -/
def signal? (cs : List Char) : Option Nat :=
  match if cs.all Char.isDigit then count? cs else none with
  | some n => if n < 65 then some n else none
  | none =>
      let text := (String.ofList cs).toUpper
      (signals.find? fun entry => entry.2.1 == text).map (·.1)

/-- The number of a signal or, for an action at the end, zero. -/
def trapNumber? (cs : List Char) : Option Nat :=
  if (String.ofList cs).toUpper = "EXIT" then some 0 else signal? cs

/-- The name of a signal. -/
def signalName (n : Nat) : String :=
  if n = 0 then "EXIT"
  else ((signals.find? fun entry => entry.1 = n).map (·.2.1)).getD (toString n)

/-- What is said of one that was ended by a signal. -/
def lastWords (n : Nat) : List Char :=
  match signals.find? fun entry => entry.1 = n with
  | some (_, _, text) => if text.isEmpty then [] else text.toList ++ ['\n']
  | none => []

/-- Whether a signal ends the one that gets it. -/
def isFatal (n : Nat) : Bool := !([0, 17, 18, 19, 20, 21, 22, 23, 28].contains n)

namespace State

/-- Sends a signal to the shell itself. -/
def send (s : State) (signal : Nat) : State :=
  match if signal = 9 then none else s.traps.get? signal with
  | some [] => s
  | some action => if signal = 0 then s else { s with pending := s.pending ++ [action] }
  | none => if isFatal signal then { s with halt := some (.killed signal) } else s

/-- Takes in the signals that parts of the shell have sent to it. -/
def deliver (s : State) : State :=
  if s.isApart then s
  else
    let mine := s.sent.filter fun entry => entry.1 = s.process
    let others := s.sent.filter fun entry => entry.1 ≠ s.process
    mine.foldl (fun s entry => s.send entry.2) { s with sent := others }

/-- Sends a signal to what has a number: the shell itself or a job. -/
def sendTo (s : State) (signal : Nat) (target : List Char) : State :=
  match count? target with
  | none => s.complain ("kill: Illegal number: " ++ String.ofList target) 2
  | some n =>
      if n = s.process && !s.isApart then s.send signal
      else if 2 ≤ n && n ≤ s.process then { s with sent := s.sent ++ [(n, signal)] }
      else if (s.jobs.any fun job => job.number = n) then
        if isFatal signal then
          { s with
            jobs := s.jobs.filter fun job => job.number ≠ n
            finished := s.finished.insert n (.signal signal) }
        else s
      else s.complain "kill: No such process\n" 1

/-- Sends a signal to each of some targets, as long as their names are numbers. -/
def sendAll (s : State) (signal : Nat) : List (List Char) → State
  | [] => s
  | target :: more =>
      let after := (s.ended 0).sendTo signal target
      if after.status = 2 || after.halt.isSome then after
      else
        let rest := after.sendAll signal more
        if rest.status = 0 then rest.ended after.status else rest

/-- The command that sends signals. -/
def kill (s : State) (arguments : List (List Char)) : State :=
  let usage : State :=
    s.complain ("kill: Usage: kill [-s sigspec | -signum | -sigspec] [pid | job]... or\n"
      ++ "kill -l [exitstatus]") 2
  let sendFound (signal : Nat) (targets : List (List Char)) : State :=
    if targets.isEmpty then usage else s.sendAll signal targets
  match arguments with
  | ['-', 'l'] :: word :: _ =>
      match count? word with
      | some n => (s.write ((signalName (n % 128)).toList ++ ['\n'])).ended 0
      | none => s.complain ("kill: Illegal number: " ++ String.ofList word) 2
  | [['-', 'l']] =>
      (s.write (signals.flatMap fun entry => entry.2.1.toList ++ ['\n'])).ended 0
  | ['-', 's'] :: name :: targets =>
      match signal? name with
      | some signal => sendFound signal targets
      | none => s.complain ("kill: invalid signal number or name: " ++ String.ofList name) 2
  | ['-', 's'] :: [] => s.complain "kill: No arg for -s option" 2
  | ['-', '-'] :: targets => sendFound 15 targets
  | ('-' :: c :: name) :: targets =>
      match signal? (c :: name) with
      | some signal => sendFound signal targets
      | none => s.complain ("kill: Illegal option -" ++ c.toString) 2
  | targets => sendFound 15 targets

/-- Sets what is done at signals. -/
def setTraps (s : State) (action : Option (List Char)) : List (List Char) → State
  | [] => s.ended 0
  | name :: more =>
      match trapNumber? name, action with
      | none, _ =>
          (s.writeOn 2 ("trap: ".toList ++ name ++ ": bad trap\n".toList)).ended 1
      | some n, none => { s with traps := s.traps.erase n }.setTraps action more
      | some n, some text => { s with traps := s.traps.insert n text }.setTraps action more

/-- A text in single quotes. -/
def inQuotes (cs : List Char) : List Char :=
  '\'' :: (cs.flatMap fun c => if c = '\'' then "'\"'\"'".toList else [c]) ++ ['\'']

/-- The command that sets what is done at signals, or prints it. -/
def trap (s : State) (arguments : List (List Char)) : State :=
  match if arguments.head? = some ['-', '-'] then arguments.drop 1 else arguments with
  | [] =>
      let numbers := (List.range 65).filterMap fun n => (s.traps.get? n).map fun text => (n, text)
      (s.write (numbers.flatMap fun (n, text) =>
        "trap -- ".toList ++ inQuotes text ++ ' ' :: (signalName n).toList ++ ['\n'])).ended 0
  | [name] => s.setTraps none [name]
  | action :: names =>
      if (count? action).isSome then s.setTraps none (action :: names)
      else s.setTraps (if action = ['-'] then none else some action) names

/-- A shell for a part of a script that runs apart: only signals that are ignored are
still so. -/
def partApart (s : State) : State :=
  { s with
    isApart := true
    traps := ⟨s.traps.entries.filter fun entry => entry.2.isEmpty⟩
    pending := [] }

end State

end SnapshotEngine.Shell
