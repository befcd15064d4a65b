import SnapshotEngine.Rehearsal.Shell.Builtin
import SnapshotEngine.Rehearsal.Shell.Reader

/-!
# Running commands

A shell runs one command after the other and remembers the code with which the last
one ended.  Parts that run apart, in parentheses, between bars or for their output,
work on a scope of their own.  A job that the script does not wait for runs when it
is waited for, at the latest at the end.

Running is bounded by a number of steps, because a loop need not end.
-/

namespace SnapshotEngine.Shell

namespace State

/-- The state after a part that has run apart. -/
def afterApart (before after : State) : State :=
  { after with
    toScope := before.toScope
    status := after.status % 256
    captureStatus := before.captureStatus
    pending := before.pending
    halt := before.halt }.deliver

/-- What a loop makes of a halt in its body: whether it goes on, and the state in
which it does. -/
def afterBody (s : State) : Bool × State :=
  match s.halt with
  | none => (true, s)
  | some (.leaving (n + 2)) => (false, { s with halt := some (.leaving (n + 1)) })
  | some (.leaving _) => (false, { s with halt := none })
  | some (.skipping (n + 2)) => (false, { s with halt := some (.skipping (n + 1)) })
  | some (.skipping _) => (true, { s with halt := none })
  | some _ => (false, s)

/-- Ends the script after a failure that is not expected, if it is to end then. -/
def checked (s : State) : State :=
  if s.has 'e' && !s.isTested && s.status ≠ 0 && s.halt.isNone then
    { s with halt := some .exited }
  else s

/-- Complains about a parameter without a value, if it must have one. -/
def required (s : State) (name : List Char) : State :=
  if s.has 'u' && (s.parameter? name).isNone && name ≠ ['@'] && name ≠ ['*'] then
    s.abort (String.ofList name ++ ": parameter not set")
  else s

/-- Shows a command before it runs, if commands are shown. -/
def traced (s : State) (sink : Sink) (assignments : List (List Char × List Char))
    (fields : List (List Char)) : State :=
  if s.has 'x' then
    let words := (assignments.map fun a => a.1 ++ '=' :: a.2) ++ fields
    let lead := (s.bindings.get? "PS4".toList).getD "+ ".toList
    s.writeTo sink (lead ++ List.intercalate [' '] words ++ ['\n'])
  else s

/-- Gives names that were assigned for one command the values they had. -/
def restoreAll (s before : State) (names : List (List Char)) : State :=
  names.foldl (fun s name => s.restore name (before.bindings.get? name)) s

/-- The shell that a shell runs as a program. -/
def nested (s : State) (call : Invocation) : State :=
  let start := State.start call.name
  { s with
    toScope := { start.toScope with
      arguments := call.arguments
      process := s.process + 1
      bindings := ⟨s.bindings.entries.filter fun entry => s.exported.contains entry.1⟩
      exported := s.exported
      options := call.options
      directory := s.directory
      streams := s.streams }
    status := 0
    captureStatus := none
    jobs := []
    pending := [] }

/-- The script of a call, if it can be read. -/
def scriptOf (s : State) (call : Invocation) : Except String (List Char) :=
  match call.source with
  | .script text => .ok text
  | .input => .ok s.input
  | .file path =>
      match s.readPath path with
      | .ok text => .ok text
      | .error _ => .error ("cannot open " ++ String.ofList path ++ ": No such file")

/-- The state of a shell whose call cannot be read. -/
def refuse (s : State) (complaint : String) : State :=
  { s.writeOn 2 (s.name ++ ": 0: ".toList ++ complaint.toList ++ ['\n']) with
    status := 2, halt := some .exited }

/-- Ends a command whose program is not found. -/
def notFound (s : State) (word : List Char) : State :=
  let text := String.ofList word
  if word.isEmpty then s.complain (s.within ++ ": Permission denied") 127
  else if word.contains '/' && (s.kindOf word).isSome then
    s.complain (s.within ++ text ++ ": Permission denied") 126
  else s.complain (s.within ++ text ++ ": not found") 127

/-- The state after a job has been waited for. -/
def awaited (s : State) (number : Nat) : State :=
  match s.finished.get? number with
  | some (.code n) => s.ended n
  | some (.signal n) => (s.writeOn 2 (lastWords n)).ended (128 + n)
  | none => s.ended 127

end State

/-- The first reason why tokens cannot be read as commands. -/
def firstError? : Nat → List PlacedToken → Option ReadError
  | 0, _ | _, [] => none
  | fuel + 1, ts =>
      match ts with
      | [⟨.endOfScript, _⟩] => none
      | _ =>
          match readLine (ts.length + 1) ts with
          | .ok (_, rest) => firstError? fuel rest
          | .error e => some e

mutual

/-- The parts that a word is expanded to. -/
def expandParts : Nat → State → Word → List Part × State
  | 0, s, _ => ([], s)
  | _ + 1, s, [] => ([], s)
  | fuel + 1, s, piece :: more =>
      if s.halt.isSome then ([], s)
      else
        let (parts, s) :=
          match piece with
          | .text quoted cs => ([.fixed quoted cs], s)
          | .loose cs => ([.split cs], s)
          | .expansion quoted e => expandOne fuel s quoted e
        let (rest, s) := expandParts fuel s more
        (parts ++ rest, s)

/-- The text that a word is expanded to when it is not taken apart. -/
def expandText : Nat → State → Word → List Char × State
  | 0, s, _ => ([], s)
  | fuel + 1, s, word =>
      let (parts, s) := expandParts fuel s word
      (unmarked (joined s.between parts), s)

/-- The fields that words are expanded to. -/
def expandFields : Nat → State → List Word → List (List Char) × State
  | 0, s, _ => ([], s)
  | _ + 1, s, [] => ([], s)
  | fuel + 1, s, word :: more =>
      let (parts, s) := expandParts fuel s word
      let (rest, s) := expandFields fuel s more
      (fields s.separators parts ++ rest, s)

/-- The parts that an expansion makes. -/
def expandOne : Nat → State → Bool → Expansion → List Part × State
  | 0, s, _, _ => ([], s)
  | fuel + 1, s, quoted, e =>
      let whole (cs : List Char) : List Part := if quoted then [.fixed true cs] else [.split cs]
      let value (s : State) (name : List Char) : List Part :=
        match name with
        | ['@'] => apart (fun cs => if quoted then .fixed true cs else .split cs) s.arguments
        | ['*'] =>
            if quoted then [.fixed true (List.intercalate s.between s.arguments)]
            else apart .split s.arguments
        | _ => whole ((s.parameter? name).getD [])
      let inside (text : List Char) : Word := if quoted then quotedPieces text else loosePieces text
      match e with
      | .parameter name =>
          let s := s.required name
          (value s name, s)
      | .choice name choice emptyToo text =>
          let isMissing :=
            match s.parameter? name with
            | none => true
            | some cs => emptyToo && cs.isEmpty
          match choice, isMissing with
          | .replacement, true => ([], s)
          | .replacement, false | .fallback, true => expandParts fuel s (inside text)
          | .assignment, true =>
              let (cs, s) := expandText fuel s (inside text)
              if s.halt.isSome then ([], s)
              else if !isName name then ([], s.abort (String.ofList name ++ ": bad variable name"))
              else (whole cs, s.assign name cs)
          | .complaint, true =>
              let (cs, s) := expandText fuel s (inside text)
              let usual := if emptyToo then "parameter not set or null" else "parameter not set"
              let complaint := if text.isEmpty then usual else String.ofList cs
              if s.halt.isSome then ([], s)
              else ([], s.abort (String.ofList name ++ ": " ++ complaint))
          | _, false => (value s name, s)
      | .cut name isAtEnd isLongest pattern =>
          let s := s.required name
          let (parts, s) := expandParts fuel s (patternPieces pattern)
          let cs := (s.parameter? name).getD []
          (whole (cutPattern isAtEnd isLongest (patternOf (joined s.between parts)) cs), s)
      | .length name =>
          let s := s.required name
          (whole (Nat.toDigits 10 ((s.parameter? name).getD []).length), s)
      | .arithmetic body =>
          let (cs, s) := expandText fuel s (plainPieces body)
          if s.halt.isSome then ([], s)
          else
            match evaluate s.bindings cs with
            | .ok (n, bindings) => (whole (ofInteger n), { s with bindings := bindings })
            | .error e => ([], s.abort (e.text cs))
      | .output script =>
          let (cs, s) := capture fuel s script
          (whole cs, s)
      | .unknown => ([], s.abort "Bad substitution")

/-- Runs a script for its output, without the line breaks at the end. -/
def capture : Nat → State → List Char → List Char × State
  | 0, s, _ => ([], s)
  | fuel + 1, s, script =>
      let ts := tokens (2 * script.length + 2) s.line script
      match firstError? (ts.length + 1) ts with
      | some e =>
          let s := { s with line := e.line }
          ([], s.abort (s.within ++ e.reason
            ++ if e.reason.endsWith "unexpected" then " (expecting \")\")" else ""))
      | none =>
          let inner := { s.capture false with isTested := false }
          let after := finish fuel (runLines fuel inner.partApart ts)
          let (cs, after) := (s.afterApart after).release
          let shown := ((cs.filter (· ≠ Char.ofNat 0)).reverse.dropWhile (· = '\n')).reverse
          (shown, { after with captureStatus := some after.status, status := s.status })

/-- Does what is to be done because of signals. -/
def serve : Nat → State → State
  | 0, s => s
  | fuel + 1, s =>
      match s.pending with
      | [] => s
      | action :: more =>
          if s.halt.isSome then s
          else
            let after := runText fuel { s with pending := more } action
            serve fuel (if after.halt.isSome then after else after.ended s.status)

/-- Runs the jobs that have not run. -/
def runJobs : Nat → State → State
  | 0, s => s
  | fuel + 1, s =>
      match s.jobs with
      | [] => s
      | job :: more =>
          let before := { s with jobs := more, pending := [] }
          let inner := { before with toScope := job.scope, input := [], halt := none }
          let after := finish fuel (run fuel inner.partApart job.body)
          let code := after.status % 256
          runJobs fuel { s.afterApart after with
            input := s.input
            status := s.status
            jobs := more ++ after.jobs
            finished := after.finished.insert job.number (.code code) }

/-- Ends a shell: does what is to be done at the end and runs its jobs. -/
def finish : Nat → State → State
  | 0, s => s
  | fuel + 1, s =>
      match s.halt with
      | some (.killed _) => s
      | _ =>
          let last :=
            match s.traps.get? 0 with
            | some action =>
                let calm := { s with traps := s.traps.erase 0, halt := none, isTested := true }
                let after := runText fuel calm action
                if after.halt.isSome then after else after.ended s.status
            | none => s
          match last.halt with
          | some (.killed _) => last
          | _ => { runJobs fuel last with status := last.status, halt := some .exited }

/-- Runs the lines of a script. -/
def runLines : Nat → State → List PlacedToken → State
  | 0, s, _ => s
  | fuel + 1, s, ts =>
      if s.halt.isSome then s
      else
        match ts with
        | [] | [⟨.endOfScript, _⟩] => s
        | _ =>
            match readLine (ts.length + 1) ts with
            | .ok (node, rest) => runLines fuel (run fuel s node) rest
            | .error e => { s with line := e.line }.abort (s.within ++ e.reason)

/-- Runs a script within the one that runs. -/
def runText : Nat → State → List Char → State
  | 0, s, _ => s
  | fuel + 1, s, script =>
      let ts := tokenize script
      if ts.all fun t => t.token == .newLine || t.token == .endOfScript then s.ended 0
      else runLines fuel s ts

/-- Runs a part of a script apart. -/
def runApart : Nat → State → Node → State
  | 0, s, _ => s
  | fuel + 1, s, body => s.afterApart (finish fuel (run fuel s.partApart body))

/-- Runs a command whose failure is expected. -/
def runTested : Nat → State → Node → State
  | 0, s, _ => s
  | fuel + 1, s, node =>
      { run fuel { s with isTested := true } node with isTested := s.isTested }

/-- Makes assignments; with it are returned the names and values. -/
def assignAll : Nat → State → List (List Char × Word) → List (List Char × List Char) × State
  | 0, s, _ => ([], s)
  | _ + 1, s, [] => ([], s)
  | fuel + 1, s, (name, word) :: more =>
      let (value, s) := expandText fuel s word
      if s.halt.isSome then ([], s)
      else
        let (rest, s) := assignAll fuel (s.assign name value) more
        ((name, value) :: rest, s)

/-- Leads streams where redirections say, up to the first that cannot be followed. -/
def leadAll : Nat → State → List Redirect → Except String State × State
  | 0, s, _ => (.ok s, s)
  | _ + 1, s, [] => (.ok s, s)
  | fuel + 1, s, r :: more =>
      let (target, s) := expandText fuel s r.target
      if s.halt.isSome then (.ok s, s)
      else
        match s.lead r.stream r.kind target with
        | .ok led => leadAll fuel led more
        | .error reason => (.error reason, s)

/-- Runs the body of a loop over words. -/
def runEach : Nat → State → List Char → List (List Char) → Node → State
  | 0, s, _, _, _ => s
  | _ + 1, s, _, [], _ => s
  | fuel + 1, s, name, word :: more, body =>
      let s := s.assign name word
      if s.halt.isSome then s
      else
        let (goesOn, after) := (run fuel s body).afterBody
        if goesOn then runEach fuel after name more body else after

/-- Runs a loop; with the code of the body that ran last, or zero. -/
def runLoop : Nat → State → Bool → Node → Node → Nat → State
  | 0, s, _, _, _, _ => s
  | fuel + 1, s, whileSuccess, test, body, code =>
      let tested := runTested fuel s test
      if tested.halt.isSome then
        let (goesOn, after) := tested.afterBody
        if goesOn then runLoop fuel after whileSuccess test body code else after
      else if (tested.status == 0) != whileSuccess then tested.ended code
      else
        let (goesOn, after) := (run fuel tested body).afterBody
        if goesOn then runLoop fuel after whileSuccess test body after.status else after

/-- Whether a word matches one of some patterns. -/
def matchesAny : Nat → State → List Char → List Word → Bool × State
  | 0, s, _, _ => (false, s)
  | _ + 1, s, _, [] => (false, s)
  | fuel + 1, s, cs, pattern :: more =>
      let (parts, s) := expandParts fuel s pattern
      if s.halt.isSome then (false, s)
      else if PatternPart.matches (patternOf (joined s.between parts)) cs then (true, s)
      else matchesAny fuel s cs more

/-- Runs the first command with a pattern that a word matches. -/
def runSelected : Nat → State → List Char → List (List Word × Node) → State
  | 0, s, _, _ => s
  | _ + 1, s, _, [] => s
  | fuel + 1, s, cs, (patterns, body) :: more =>
      let (isMatch, s) := matchesAny fuel s cs patterns
      if s.halt.isSome then s
      else if isMatch then run fuel s body
      else runSelected fuel s cs more

/-- Runs a function with its arguments. -/
def runFunction : Nat → State → Node → List (List Char) → State
  | 0, s, _, _ => s
  | fuel + 1, s, body, arguments =>
      let after := run fuel { s with arguments := arguments, loops := 0, saved := some [] } body
      let kept := (after.saved.getD []).foldl (fun s entry => s.restore entry.1 entry.2) after
      { kept with
        arguments := s.arguments
        loops := s.loops
        saved := s.saved
        halt := if after.halt = some .returned then none else after.halt }

/-- Runs a shell as a program. -/
def runShell : Nat → State → List Char → List (List Char) → State
  | 0, s, _, _ => s
  | fuel + 1, s, name, words =>
      match invocation name words with
      | .error complaint =>
          let refused := { State.start name with streams := s.streams }.refuse complaint
          { s.writeOn 2 (refused.errors.reverse.flatten) with status := 2 }
      | .ok call =>
          match s.scriptOf call with
          | .error complaint =>
              { s.writeOn 2 (name ++ ": 0: ".toList ++ complaint.toList ++ ['\n']) with status := 2 }
          | .ok script =>
              let inner := s.nested call
              let inner := if call.source = .input then { inner with input := [] } else inner
              let after := finish fuel (runLines fuel inner (tokenize script))
              let outer := { s.afterApart after with jobs := s.jobs }
              match after.halt with
              | some (.killed signal) => (outer.writeOn 2 (lastWords signal)).ended (128 + signal)
              | _ => outer

/-- Runs a program beside the shell. -/
def runProgram : Nat → State → List Char → List (List Char) → State
  | 0, s, _, _ => s
  | fuel + 1, s, word, arguments =>
      match s.programOf? word with
      | none => s.notFound word
      | some "sh" => runShell fuel s "sh".toList arguments
      | some "dash" => runShell fuel s "dash".toList arguments
      | some "echo" => s.print "echo" (State.echoPlain arguments)
      | some "env" =>
          let isSetting (word : List Char) : Bool := word.contains '='
          let step (s : State) (word : List Char) : State :=
            let (name, value) := State.splitValue word
            { s with
              bindings := s.bindings.insert name (value.getD [])
              exported := name :: s.exported }
          let given := (arguments.takeWhile isSetting).foldl step s
          match arguments.dropWhile isSetting with
          | [] => s.ended 0
          | inner :: rest =>
              let ran := runProgram fuel given inner rest
              { ran with bindings := s.bindings, exported := s.exported }
      | some name =>
          let s := if name = "sleep" then runJobs fuel s else s
          (s.perform? name arguments).getD ((s.builtin? name arguments).getD (s.notFound word))

/-- Runs a command with its arguments, other than a function. -/
def runCommand : Nat → State → List Char → List (List Char) → State
  | 0, s, _, _ => s
  | fuel + 1, s, command, arguments =>
      match String.ofList command, arguments with
      | "eval", _ =>
          let script := List.intercalate [' '] arguments
          { runText fuel { s with within := "eval: " } script with within := s.within }
      | ".", [] => s.ended 0
      | ".", path :: _ =>
          match s.readPath path with
          | .ok script => runText fuel s script
          | .error _ =>
              s.abort (".: cannot open " ++ String.ofList path ++ ": No such file")
      | "exec", [] => s.ended 0
      | "exec", inner :: rest =>
          match s.programOf? inner with
          | some _ =>
              let ran := runProgram fuel { s with traps := .empty } inner rest
              { ran with halt := ran.halt <|> some .exited }
          | none =>
              { { s with within := s.within ++ "exec: " }.notFound inner with
                within := s.within, halt := some .exited }
      | "command", ['-', 'v'] :: name :: _ => s.describe name true keywords
      | "command", ['-', 'V'] :: name :: _ => s.describe name false keywords
      | "type", _ :: _ => s.describeAll keywords arguments
      | "command", [] | "type", [] => s.ended 0
      | "command", ['-', '-'] :: inner :: rest | "command", ['-', 'p'] :: inner :: rest
      | "command", inner :: rest => runCommand fuel s inner rest
      | "wait", [] => (runJobs fuel s).ended 0
      | "wait", _ =>
          match arguments.find? fun word => (count? word).isNone with
          | some word => s.complain ("wait: Illegal number: " ++ String.ofList word) 2
          | none =>
              arguments.foldl (fun s word => s.awaited ((count? word).getD 0)) (runJobs fuel s)
      | name, _ =>
          match s.builtin? name arguments with
          | some after => after
          | none => runProgram fuel s command arguments

/-- Runs a simple command whose words are known and whose streams are led. -/
def runLed : Nat → State → Sink → List (List Char × Word) → List (List Char) → State
  | 0, s, _, _, _ => s
  | fuel + 1, s, traceSink, assignments, words =>
      let (values, assigned) := assignAll fuel s assignments
      if assigned.halt.isSome then assigned
      else
        let shown := assigned.traced traceSink values words
        match words with
        | [] => shown.ended (shown.captureStatus.getD 0)
        | command :: arguments =>
            let names := values.map (·.1)
            let isSpecial := State.specialNames.contains (String.ofList command)
            match if isSpecial then none else s.functions.get? command with
            | some body => (runFunction fuel shown body arguments).restoreAll s names
            | none =>
                if isSpecial then runCommand fuel shown command arguments
                else
                  let exporting := { shown with exported := names ++ shown.exported }
                  let ran := runCommand fuel exporting command arguments
                  { ran.restoreAll s names with exported := s.exported }

/-- Runs a command. -/
def run : Nat → State → Node → State
  | 0, s, _ => s
  | fuel + 1, s, node =>
      if s.halt.isSome || s.has 'n' then s
      else
        match node with
        | .nothing => s
        | .simple line assignments words redirects =>
            let begun := { s with line := line, captureStatus := none }
            let (fields, expanded) := expandFields fuel begun words
            let traceSink := (expanded.streams.get? 2).getD .nowhere
            let isSpecial :=
              fields.head?.any fun word => State.specialNames.contains (String.ofList word)
            if expanded.halt.isSome then expanded
            else
              match leadAll fuel expanded redirects with
              | (.error reason, failed) =>
                  let isFatal := isSpecial || reason = State.badNumber
                  let after := if isFatal then failed.abort reason else failed.complain reason 2
                  { after with streams := s.streams, input := s.input }.checked
              | (.ok led, _) =>
                  if led.halt.isSome then led
                  else
                    let ran := runLed fuel led traceSink assignments fields
                    let after :=
                      if fields = ["exec".toList] then ran
                      else
                        { ran with
                          streams := s.streams
                          input := if redirects.any fun r => r.stream = 0 then s.input else ran.input }
                    (serve fuel after).checked
        | .pipe first second =>
            let wrote := runApart fuel (s.capture true) first
            let (text, between) := { wrote with toScope := s.toScope }.release
            if between.halt.isSome then between
            else
              let read := runApart fuel { between with input := text, status := s.status } second
              (serve fuel { read with input := between.input }).checked
        | .negate node =>
            let after := runTested fuel s node
            if after.halt.isSome then after
            else after.ended (if after.status = 0 then 1 else 0)
        | .both first second =>
            let after := runTested fuel s first
            if after.status = 0 then run fuel after second else after
        | .either first second =>
            let after := runTested fuel s first
            if after.status = 0 then after else run fuel after second
        | .sequence first second => run fuel (run fuel s first) second
        | .apart body => (serve fuel (runApart fuel s body)).checked
        | .background body =>
            let number := 100 + s.jobs.length + s.finished.entries.length
            { s.ended 0 with
              jobs := s.jobs ++ [⟨number, s.toScope, body⟩]
              lastJob := some number }
        | .branch test yes no =>
            let tested := runTested fuel s test
            if tested.halt.isSome then tested
            else if tested.status = 0 then run fuel (tested.ended 0) yes
            else run fuel (tested.ended 0) no
        | .loop whileSuccess test body =>
            let after := runLoop fuel { s with loops := s.loops + 1 } whileSuccess test body 0
            { after with loops := s.loops }
        | .each name words body =>
            let (fields, expanded) := expandFields fuel s words
            if expanded.halt.isSome then expanded
            else
              let after := runEach fuel { expanded.ended 0 with loops := s.loops + 1 } name fields body
              { after with loops := s.loops }
        | .select word cases =>
            let (cs, expanded) := expandText fuel s word
            if expanded.halt.isSome then expanded
            else runSelected fuel (expanded.ended 0) cs cases
        | .define name body =>
            { s.ended 0 with functions := s.functions.insert name body }
        | .redirected line body redirects =>
            match leadAll fuel { s with line := line } redirects with
            | (.error reason, failed) =>
                let isFatal := reason = State.badNumber
                let after := if isFatal then failed.abort reason else failed.complain reason 2
                { after with streams := s.streams, input := s.input }
            | (.ok led, _) =>
                let after := run fuel led body
                { after with
                  streams := s.streams
                  input := if redirects.any fun r => r.stream = 0 then s.input else after.input }

end

/-- More steps than any script takes that ends. -/
def plenty : Nat := 1000000000

/-- Runs a shell with the words behind its name. -/
def runCall (name : List Char) (words : List (List Char)) : State :=
  let s := State.start name
  match invocation name words with
  | .error complaint => s.refuse complaint
  | .ok call =>
      match s.scriptOf call with
      | .error complaint => s.refuse complaint
      | .ok script =>
          let s := { s with name := call.name, arguments := call.arguments, options := call.options }
          finish plenty (runLines plenty s (tokenize script))

end SnapshotEngine.Shell
