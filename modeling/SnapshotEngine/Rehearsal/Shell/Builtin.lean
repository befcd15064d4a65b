import SnapshotEngine.Rehearsal.Shell.Printing
import SnapshotEngine.Rehearsal.Shell.Program
import SnapshotEngine.Rehearsal.Shell.Signal

/-!
# Commands of the shell itself

What a command changes in the shell that runs it: its variables, its arguments, its
options and what it writes.  A complaint of one of the special commands ends the
script.
-/

namespace SnapshotEngine.Shell

namespace State

/-! ## Redirections -/

/-- The complaint about something that is no number of a stream. -/
def badNumber : String := "Syntax error: Bad fd number"

/-- Leads a stream to where a redirection says. -/
def lead (s : State) (stream : Nat) (kind : RedirectKind) (target : List Char) :
    Except String State :=
  let text := String.ofList target
  let leading (sink : Sink) : State := { s with streams := s.streams.insert stream sink }
  let toFile (keeps : Bool) : Except String State :=
    match text with
    | "/dev/null" | "/dev/zero" | "/dev/full" => .ok (leading .nowhere)
    | "/dev/stdout" => .ok (leading ((s.streams.get? 1).getD .nowhere))
    | "/dev/stderr" => .ok (leading ((s.streams.get? 2).getD .nowhere))
    | _ =>
        if s.kindOf target = some .directory then
          .error ("cannot create " ++ text ++ ": Is a directory")
        else if target.isEmpty || !s.hasPlace target then
          .error ("cannot create " ++ text ++ ": Directory nonexistent")
        else
          let path := s.resolve target
          let before := if keeps then (s.files.get? path).getD [] else []
          .ok { leading (.file path) with files := s.files.insert path before }
  match kind with
  | .write => toFile false
  | .append => toFile true
  | .here => .ok (if stream = 0 then { s with input := target } else s)
  | .read =>
      match s.readPath target with
      | .ok input => .ok (if stream = 0 then { s with input := input } else s)
      | .error _ =>
          if s.kindOf target = some .directory then .ok { s with input := [] }
          else .error ("cannot open " ++ text ++ ": No such file")
  | .duplicate =>
      if target = ['-'] then
        .ok { s with
          streams := s.streams.erase stream
          input := if stream = 0 then [] else s.input }
      else
        match if target.length = 1 then digitsIn 10 target else none with
        | none => .error badNumber
        | some n =>
            if n = stream || n = 0 then .ok s
            else
              match s.streams.get? n with
              | some sink => .ok (leading sink)
              | none => .error (toString n ++ ": Bad file descriptor")

/-! ## Printing -/

/-- Writes what a command prints; it fails if the output is closed. -/
def print (s : State) (command : String) (shown : List Char) : State :=
  if (s.streams.get? 1).isNone && !shown.isEmpty then
    s.complain (command ++ ": " ++ command ++ ": I/O error") 1
  else (s.write shown).ended 0

/-- Writes complaints about words. -/
def complainAll (s : State) (complaints : List String) : State :=
  complaints.foldl (fun s complaint => s.complain complaint s.status) s

/-- The command that fills a format in. -/
def printFormat (s : State) (arguments : List (List Char)) : State :=
  match arguments with
  | ['-', '-'] :: format :: words => fill format words
  | ('-' :: c :: _) :: _ =>
      if c = '-' then s.complain "printf: usage: printf format [arg ...]" 2
      else s.complain ("printf: Illegal option -" ++ c.toString) 2
  | format :: words => fill format words
  | [] => s.complain "printf: usage: printf format [arg ...]" 2
where
  /-- Fills a format in. -/
  fill (format : List Char) (words : List (List Char)) : State :=
    let printed := printf format words
    let s := s.complainAll (printed.complaints.map ("printf: " ++ ·))
    let s := s.print "printf" printed.shown
    if printed.code = 0 then s else s.ended printed.code

/-! ## Names -/

/-- Splits a word into a name and the value behind an equals sign. -/
def splitValue (word : List Char) : List Char × Option (List Char) :=
  let name := word.takeWhile (· ≠ '=')
  match word.drop name.length with
  | _ :: value => (name, some value)
  | [] => (name, none)

/-- Takes each of some names, perhaps with a value, as long as they are names. -/
def eachName (command : String) (f : State → List Char → State) :
    State → List (List Char) → State
  | s, [] => s
  | s, word :: more =>
      if s.halt.isSome then s
      else
        let (name, value) := splitValue word
        if !isName name then
          s.abort (command ++ ": " ++ String.ofList name ++ ": bad variable name")
        else
          let assigned := value.elim s fun value =>
            { { s with within := command ++ ": " }.assign name value with within := s.within }
          if assigned.halt.isSome then assigned
          else eachName command f (f assigned name) more

/-- The names that a command has marked, with their values. -/
def showNames (s : State) (command : String) (names : List (List Char)) : State :=
  let sorted := names.mergeSort fun a b => decide (String.ofList a ≤ String.ofList b)
  let line (name : List Char) : List Char :=
    command.toList ++ ' ' :: name
      ++ (s.bindings.get? name).elim [] (fun value => '=' :: inQuotes value) ++ ['\n']
  (s.write (sorted.flatMap line)).ended 0

/-- Words without an option of one letter at the beginning. -/
def withoutOption (option : Char) (words : List (List Char)) : List (List Char) :=
  let words := if words.head? = some ['-', option] then words.drop 1 else words
  if words.head? = some ['-', '-'] then words.drop 1 else words

/-- The command that marks names whose values programs are given. -/
def exportNames (s : State) (words : List (List Char)) : State :=
  match withoutOption 'p' words with
  | [] => s.showNames "export" s.exported.eraseDups
  | words =>
      eachName "export" (fun s name => { s with exported := name :: s.exported }) (s.ended 0) words

/-- The command that marks names whose values must not change. -/
def fixNames (s : State) (words : List (List Char)) : State :=
  match withoutOption 'p' words with
  | [] => s.showNames "readonly" s.fixed.eraseDups
  | words =>
      eachName "readonly" (fun s name => { s with fixed := name :: s.fixed }) (s.ended 0) words

/-- The command that keeps the values of names within a function. -/
def keepLocal (s : State) (words : List (List Char)) : State :=
  match s.saved with
  | none => s.abort "local: not in a function"
  | some _ =>
      let save (s : State) (word : List Char) : State :=
        let name := (splitValue word).1
        { s with saved := s.saved.map ((name, s.bindings.get? name) :: ·) }
      eachName "local" (fun s _ => s) (words.foldl save (s.ended 0)) words

/-- Takes names and their values away. -/
def unsetNames (s : State) : List (List Char) → State
  | [] => s
  | name :: more =>
      if !isName name then s.abort ("unset: " ++ String.ofList name ++ ": bad variable name")
      else if s.fixed.contains name then
        s.abort ("unset: " ++ String.ofList name ++ ": is read only")
      else
        { s with
          bindings := s.bindings.erase name
          exported := s.exported.filter (· ≠ name) }.unsetNames more

/-- The command that takes names away. -/
def unset (s : State) (words : List (List Char)) : State :=
  match words with
  | ['-', 'f'] :: names =>
      { s.ended 0 with functions := names.foldl Table.erase s.functions }
  | ['-', 'v'] :: names | names => (s.ended 0).unsetNames names

/-- The command that changes options and arguments. -/
def set (s : State) (words : List (List Char)) : State :=
  match readOptions false (words.length + 1) s.options words with
  | .error reason => s.abort ("set: " ++ reason)
  | .ok change =>
      let arguments := if change.isAll || !change.rest.isEmpty then change.rest else s.arguments
      { s.ended 0 with options := change.options, arguments := arguments }

/-- The command that drops arguments. -/
def shift (s : State) (words : List (List Char)) : State :=
  let word := words.headD ['1']
  match count? word with
  | none => s.abort ("shift: Illegal number: " ++ String.ofList word)
  | some n =>
      if s.arguments.length < n then s.abort "shift: can't shift that many"
      else { s.ended 0 with arguments := s.arguments.drop n }

/-! ## Reading -/

/-- Takes a line off a text; a backslash, unless it stands for itself, quotes what is
behind it and joins lines.  With it are returned whether the line ends, and the rest. -/
def readMarked (isRaw : Bool) : List Char → Marked × Bool × List Char
  | [] => ([], false, [])
  | '\n' :: rest => ([], true, rest)
  | '\\' :: c :: rest =>
      if isRaw then
        let (line, ends, rest) := readMarked isRaw (c :: rest)
        (('\\', false) :: line, ends, rest)
      else
        let (line, ends, rest) := readMarked isRaw rest
        (if c = '\n' then line else (c, true) :: line, ends, rest)
  | c :: rest =>
      let (line, ends, rest) := readMarked isRaw rest
      ((c, false) :: line, ends, rest)

/-- The values that a line has for some names, of which the last gets what is left. -/
def valuesFor (separators : List Char) : Nat → Marked → List (List Char)
  | 0, _ => []
  | names + 1, line =>
      let isSeparator (x : Char × Bool) : Bool := separators.contains x.1 && !x.2
      let isBlank (x : Char × Bool) : Bool := isSeparator x && usualSeparators.contains x.1
      let line := line.dropWhile isBlank
      let first := line.takeWhile (!isSeparator ·)
      let behind := (line.drop first.length).dropWhile isBlank
      let behind :=
        if behind.head?.any fun x => isSeparator x && !isBlank x then
          (behind.drop 1).dropWhile isBlank
        else behind
      if names = 0 then
        if behind.isEmpty then [unmarked first]
        else [unmarked (line.reverse.dropWhile isBlank).reverse]
      else unmarked first :: valuesFor separators names behind

/-- Gives names their values, as long as they are names. -/
def assignEach (s : State) : List (List Char × List Char) → State
  | [] => s
  | (name, value) :: more =>
      if !isName name then
        s.complain ("read: " ++ String.ofList name ++ ": bad variable name") 2
      else if s.fixed.contains name then
        s.complain ("read: " ++ String.ofList name ++ ": is read only") 2
      else { s with bindings := s.bindings.insert name value }.assignEach more

/-- The command that reads a line. -/
def readLineInto (s : State) (isRaw : Bool) : List (List Char) → State
  | ['-', 'r'] :: more => s.readLineInto true more
  | ['-', 'p'] :: _ :: more => s.readLineInto isRaw more
  | ['-', '-'] :: names => take names
  | ('-' :: c :: rest) :: names =>
      if c = 'r' then s.readLineInto true (('-' :: rest) :: names)
      else s.complain ("read: Illegal option -" ++ c.toString) 2
  | names => take names
  termination_by words => words.flatten.length + words.length
where
  /-- Reads a line into names. -/
  take (names : List (List Char)) : State :=
    if names.isEmpty then s.complain "read: arg count" 2
    else
      let (line, ends, rest) := readMarked isRaw s.input
      let values := valuesFor s.separators names.length line
      { s.ended (if ends then 0 else 1) with input := rest }.assignEach (names.zip values)

/-! ## Ending -/

/-- The command that ends the script. -/
def exit (s : State) (words : List (List Char)) : State :=
  match words with
  | [] => { s with halt := some .exited }
  | word :: _ =>
      match count? word with
      | some n => { s.ended n with halt := some .exited }
      | none => s.abort ("exit: Illegal number: " ++ String.ofList word)

/-- The command that leaves a function, or the script outside of one. -/
def leave (s : State) (words : List (List Char)) : State :=
  match words with
  | [] => { s with halt := some .returned }
  | word :: _ =>
      match count? word with
      | some n => { s.ended n with halt := some .returned }
      | none => s.abort ("return: Illegal number: " ++ String.ofList word)

/-- The command that leaves loops, or goes on with them. -/
def leaveLoops (s : State) (command : String) (halt : Nat → Halt) (words : List (List Char)) :
    State :=
  let word := words.headD ['1']
  match count? word with
  | none | some 0 => s.abort (command ++ ": Illegal number: " ++ String.ofList word)
  | some n => if s.loops = 0 then s.ended 0 else { s.ended 0 with halt := some (halt (min n s.loops)) }

/-! ## Directories -/

/-- The command that goes to a directory. -/
def changeDirectory (s : State) (words : List (List Char)) : State :=
  let words := (withoutOption 'P' words)
  let isBack := words.head? = some ['-']
  let target :=
    if isBack then (s.bindings.get? "OLDPWD".toList).getD []
    else words.headD ((s.bindings.get? "HOME".toList).getD "/root".toList)
  if s.kindOf target = some .directory then
    let path := s.resolve target
    let bindings := (s.bindings.insert "OLDPWD".toList s.directory).insert "PWD".toList path
    let s := { s.ended 0 with directory := path, bindings := bindings }
    if isBack then s.write (path ++ ['\n']) else s
  else s.complain ("cd: can't cd to " ++ String.ofList target) 2

/-- The command that removes files. -/
def remove (s : State) (words : List (List Char)) : State :=
  let isForced := words.any fun word => word.head? = some '-' && word.contains 'f'
  let step (s : State) (path : List Char) : State :=
    match s.kindOf path with
    | some (.regular _) => { s with files := s.files.erase (s.resolve path) }
    | some .directory =>
        (s.writeOn 2 ("rm: cannot remove '".toList ++ path ++ "': Is a directory\n".toList)).ended 1
    | _ =>
        if isForced then s
        else
          (s.writeOn 2
            ("rm: cannot remove '".toList ++ path ++ "': No such file or directory\n".toList)).ended 1
  (words.filter fun word => word.head? ≠ some '-').foldl step (s.ended 0)

/-- The command that makes files. -/
def touch (s : State) (words : List (List Char)) : State :=
  let step (s : State) (path : List Char) : State :=
    if (s.kindOf path).isSome then s
    else if s.hasPlace path then { s with files := s.files.insert (s.resolve path) [] }
    else
      (s.writeOn 2
        ("touch: cannot touch '".toList ++ path ++ "': No such file or directory\n".toList)).ended 1
  (words.filter fun word => word.head? ≠ some '-').foldl step (s.ended 0)

/-! ## All commands -/

/-- Ends a command with the code of a test. -/
def test (s : State) (command : String) (words : List (List Char)) : State :=
  match Trial.trial s.kindOf words with
  | .ok holds => s.ended (if holds then 0 else 1)
  | .error reason => s.complain (command ++ ": " ++ reason) 2

/-- Runs a program beside the shell, if there is one of that name. -/
def perform? (s : State) (name : String) (arguments : List (List Char)) : Option State :=
  match name with
  | "rm" => some (s.remove arguments)
  | "touch" => some (s.touch arguments)
  | _ =>
      (Shell.perform? s.readPath name arguments s.input).map fun done =>
        { ((s.writeOn 2 done.errors).write done.output).ended done.code with input := done.rest }

/-- What the program `echo` prints, which knows no escapes unless it is told to. -/
def echoPlain (words : List (List Char)) : List Char :=
  match words with
  | ['-', 'n'] :: rest => List.intercalate [' '] rest
  | ['-', 'e'] :: rest => echo rest
  | _ => List.intercalate [' '] words ++ ['\n']

/-- The names of the special commands. -/
def specialNames : List String :=
  [".", ":", "break", "continue", "eval", "exec", "exit", "export", "readonly", "return", "set",
    "shift", "times", "trap", "unset"]

/-- The names of the other commands of the shell. -/
def plainNames : List String :=
  ["[", "alias", "bg", "cd", "chdir", "command", "echo", "false", "fg", "getopts", "hash", "jobs",
    "kill", "local", "printf", "pwd", "read", "test", "true", "type", "ulimit", "umask", "unalias",
    "wait"]

/-- The programs beside the shell. -/
def programNames : List String :=
  ["basename", "cat", "dd", "dirname", "echo", "env", "expr", "false", "head", "kill", "printf", "pwd", "rev",
    "rm", "seq", "sh", "sleep", "sort", "tac", "tail", "tee", "test", "touch", "tr", "true", "uniq",
    "wc", "yes", "[", "dash"]

/-- Whether programs are found where they are. -/
def findsPrograms (s : State) : Bool :=
  match s.bindings.get? "PATH".toList with
  | none => true
  | some path => (path.splitOn ':').any fun p => p = "/bin".toList || p = "/usr/bin".toList

/-- The name of the program that a word leads to, if it leads to one. -/
def programOf? (s : State) (word : List Char) : Option String :=
  let name := (word.reverse.takeWhile (· ≠ '/')).reverse
  let above := word.take (word.length - name.length)
  let isThere := programNames.contains (String.ofList name)
  if word.contains '/' then
    if isThere && (above = "/bin/".toList || above = "/usr/bin/".toList) then
      some (String.ofList name)
    else none
  else if isThere && s.findsPrograms then some (String.ofList name)
  else none

/-- Says what a name stands for. -/
def describe (s : State) (name : List Char) (isShort : Bool) (keywords : List String) : State :=
  let text := String.ofList name
  let shown (long : String) : State :=
    (s.write ((if isShort then text else text ++ " is " ++ long).toList ++ ['\n'])).ended 0
  if keywords.contains text then shown "a shell keyword"
  else if (s.functions.get? name).isSome then shown "a shell function"
  else if specialNames.contains text then shown "a special shell builtin"
  else if plainNames.contains text then shown "a shell builtin"
  else
    match s.programOf? name with
    | some _ =>
        let path := if name.contains '/' then text else "/usr/bin/" ++ text
        (s.write ((if isShort then path else text ++ " is " ++ path).toList ++ ['\n'])).ended 0
    | none => if isShort then s.ended 127 else (s.write (name ++ ": not found\n".toList)).ended 127

/-- Says what each of some names stands for. -/
def describeAll (s : State) (keywords : List String) (names : List (List Char)) : State :=
  let after := names.foldl (fun (s, code) name =>
    let s := s.describe name false keywords
    (s, max code s.status)) (s, 0)
  after.1.ended after.2

/-- The command of the shell with a name, if there is one. -/
def builtin? (s : State) (name : String) (arguments : List (List Char)) : Option State :=
  match name with
  | "echo" => some (s.print "echo" (echo arguments))
  | "printf" => some (s.printFormat arguments)
  | "true" | ":" | "hash" | "alias" | "unalias" | "jobs" => some (s.ended 0)
  | "false" => some (s.ended 1)
  | "exit" => some (s.exit arguments)
  | "return" => some (s.leave arguments)
  | "break" => some (s.leaveLoops "break" .leaving arguments)
  | "continue" => some (s.leaveLoops "continue" .skipping arguments)
  | "kill" => some (s.kill arguments)
  | "trap" => some (s.trap arguments)
  | "test" => some (s.test "test" arguments)
  | "[" =>
      if (arguments.getLast?.bind List.head?) = some ']' then
        some (s.test "[" arguments.dropLast)
      else some (s.complain "[: missing ]" 2)
  | "shift" => some (s.shift arguments)
  | "set" => some (s.set arguments)
  | "unset" => some (s.unset arguments)
  | "export" => some (s.exportNames arguments)
  | "readonly" => some (s.fixNames arguments)
  | "local" => some (s.keepLocal arguments)
  | "read" => some (s.readLineInto false arguments)
  | "cd" | "chdir" => some (s.changeDirectory arguments)
  | "pwd" => some ((s.write (s.directory ++ ['\n'])).ended 0)
  | "umask" => some ((if arguments.isEmpty then s.write "0022\n".toList else s).ended 0)
  | "ulimit" =>
      let isAsked := arguments.all fun word => word.head? = some '-'
      some ((if isAsked then s.write "unlimited\n".toList else s).ended 0)
  | _ => none

end State

end SnapshotEngine.Shell
