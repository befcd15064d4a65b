import SnapshotEngine.Rehearsal.Shell.Token

/-!
# Reading tokens as commands

Commands are joined by `&&` and `||`, which bind alike and to the left, and
lists of them by semicolons and line breaks.  A command that begins with one of
a few words has a form of its own.  A script is read line by line, so that the
lines in front of one that cannot be read have run already.
-/

namespace SnapshotEngine.Shell

/-- Why a script cannot be read on. -/
structure ReadError where
  line : Nat
  reason : String
deriving DecidableEq, Repr, Inhabited

/-- The word that a token is, if it is a plain one. -/
def plain? : Token → Option String
  | .word [.text false cs] => some (String.ofList cs)
  | _ => none

/-- The plain word at the beginning, if there is one. -/
def head? (ts : List PlacedToken) : Option String := ts.head?.bind fun t => plain? t.token

/-- The words with a meaning of their own where a command may begin. -/
def keywords : List String :=
  ["!", "case", "do", "done", "elif", "else", "esac", "fi", "for", "if", "in", "then", "until",
    "while", "\x7b", "\x7d"]

/-- The words that end a list of commands. -/
def endings : List String := ["do", "done", "elif", "else", "esac", "fi", "then", "\x7d"]

/-- Whether a list of commands ends here. -/
def endsList (ts : List PlacedToken) : Bool :=
  match ts with
  | ⟨.mark .parenClose, _⟩ :: _ | ⟨.mark .caseEnd, _⟩ :: _ => true
  | _ => (head? ts).any endings.contains

/-- How a complaint names a token. -/
def named (token : Token) : String :=
  match token with
  | .newLine => "newline"
  | .mark mark => "\"" ++ mark.text ++ "\""
  | .redirect _ _ => "redirection"
  | .endOfScript | .broken _ => "end of file"
  | .word _ =>
      match plain? token with
      | some word => if keywords.contains word then "\"" ++ word ++ "\"" else "word"
      | none => "word"

/-- The complaint that a token was not expected, but perhaps another one. -/
def unexpected (ts : List PlacedToken) (expected : Option String) : ReadError :=
  let first := ts.headD ⟨.endOfScript, 1⟩
  match first.token with
  | .broken reason => ⟨first.line, reason⟩
  | token =>
      let wish := expected.elim "" fun word => " (expecting \"" ++ word ++ "\")"
      let line := if token = .newLine then first.line + 1 else first.line
      ⟨line, "Syntax error: " ++ named token ++ " unexpected" ++ wish⟩

/-- Takes a closing parenthesis off the beginning; no word has a meaning of its own in its
place. -/
def expectClose (ts : List PlacedToken) : Except ReadError (List PlacedToken) :=
  match ts with
  | ⟨.mark .parenClose, _⟩ :: rest => .ok rest
  | ⟨.word _, line⟩ :: _ => .error ⟨line, "Syntax error: word unexpected (expecting \")\")"⟩
  | _ => .error (unexpected ts (some Mark.parenClose.text))

/-- What was taken off the beginning, and the tokens behind it. -/
abbrev Taken (α : Type) := α × List PlacedToken

/-- Drops line breaks at the beginning. -/
def skipLines (ts : List PlacedToken) : List PlacedToken := ts.dropWhile (·.token == .newLine)

/-- Takes a plain word off the beginning. -/
def expect (word : String) (ts : List PlacedToken) : Except ReadError (List PlacedToken) :=
  if head? ts = some word then .ok (ts.drop 1) else .error (unexpected ts (some word))

/-- Takes a mark off the beginning. -/
def expectMark (mark : Mark) (ts : List PlacedToken) : Except ReadError (List PlacedToken) :=
  match ts with
  | ⟨.mark found, _⟩ :: rest =>
      if found = mark then .ok rest else .error (unexpected ts (some mark.text))
  | _ => .error (unexpected ts (some mark.text))

/-- Takes the target of a redirection off the beginning. -/
def readTarget (ts : List PlacedToken) : Except ReadError (Taken Word) :=
  match ts with
  | ⟨.word target, _⟩ :: rest => .ok (target, rest)
  | _ => .error (unexpected ts none)

/-- Takes redirections off the beginning. -/
def readRedirects : Nat → List PlacedToken → Except ReadError (Taken (List Redirect))
  | fuel + 1, ⟨.redirect stream kind, _⟩ :: rest => do
      let (target, rest) ← readTarget rest
      let (more, rest) ← readRedirects fuel rest
      return (⟨stream, kind, target⟩ :: more, rest)
  | _, ts => .ok ([], ts)

/-- The assignment that a word is, if it is one. -/
def assignment? : Word → Option (List Char × Word)
  | .text false cs :: more =>
      let name := cs.takeWhile isNameChar
      match cs.drop name.length with
      | '=' :: value =>
          if isName name then
            some (name, if value.isEmpty then more else .text false value :: more)
          else none
      | _ => none
  | _ => none

/-- Takes the words and redirections of a simple command off the beginning. -/
def readParts : Nat → List PlacedToken → Except ReadError (Taken (List Word × List Redirect))
  | fuel + 1, ⟨.word w, _⟩ :: rest => do
      let ((words, redirects), rest) ← readParts fuel rest
      return ((w :: words, redirects), rest)
  | fuel + 1, ⟨.redirect stream kind, _⟩ :: rest => do
      let (target, rest) ← readTarget rest
      let ((words, redirects), rest) ← readParts fuel rest
      return ((words, ⟨stream, kind, target⟩ :: redirects), rest)
  | _, ts => .ok (([], []), ts)

/-- Splits the assignments at the beginning of a command off. -/
def splitAssignments : List Word → List (List Char × Word) × List Word
  | w :: rest =>
      match assignment? w with
      | some a =>
          let (more, words) := splitAssignments rest
          (a :: more, words)
      | none => ([], w :: rest)
  | [] => ([], [])

/-- A command with its redirections, if it has any. -/
def withRedirects (line : Nat) (node : Node) (ts : List PlacedToken) :
    Except ReadError (Taken Node) := do
  let (redirects, rest) ← readRedirects (ts.length + 1) ts
  return (if redirects.isEmpty then node else .redirected line node redirects, rest)

/-- Takes words off the beginning. -/
def readWords : List PlacedToken → List Word × List PlacedToken
  | ⟨.word w, _⟩ :: rest =>
      let (more, after) := readWords rest
      (w :: more, after)
  | ts => ([], ts)

/-- Takes the patterns of a case off the beginning, with bars between them.  Anything
may stand in the place of a pattern, and what is no word matches nothing but the empty
text. -/
def readPatterns : Nat → List PlacedToken → Except ReadError (Taken (List Word))
  | fuel + 1, first :: ⟨.mark .pipe, _⟩ :: rest => do
      let (more, rest) ← readPatterns fuel rest
      return (patternOf first.token :: more, rest)
  | _, ⟨.broken reason, line⟩ :: _ => .error ⟨line, reason⟩
  | _, [⟨.endOfScript, line⟩] => .ok ([], [⟨.endOfScript, line⟩])
  | _, first :: rest => .ok ([patternOf first.token], rest)
  | _, [] => .ok ([], [])
where
  /-- The word that a token is. -/
  patternOf : Token → Word
    | .word w => w
    | _ => []

/-- The words that a loop without words goes over. -/
def allArguments : List Word := [[.expansion true (.parameter ['@'])]]

/-- A list of commands that goes on with another one. -/
def Node.andThen (first : Node) : Node → Node
  | .nothing => first
  | second => .sequence first second

mutual

/-- Takes a list of commands off the beginning, up to what ends it. -/
def readList : Nat → Bool → List PlacedToken → Except ReadError (Taken Node)
  | 0, _, ts => .error (unexpected ts none)
  | fuel + 1, mayBeEmpty, ts =>
      let ts := skipLines ts
      if ts.head?.any (·.token == .endOfScript) || (mayBeEmpty && endsList ts) then
        .ok (.nothing, ts)
      else do
        let (first, rest) ← readChain fuel ts
        match rest with
        | ⟨.mark .semicolon, _⟩ :: rest | rest@(⟨.newLine, _⟩ :: _) =>
            let (more, rest) ← readList fuel true rest
            return (first.andThen more, rest)
        | ⟨.mark .background, _⟩ :: rest =>
            let (more, rest) ← readList fuel true rest
            return ((Node.background first).andThen more, rest)
        | rest => return (first, rest)

/-- Takes commands that are joined by `&&` and `||` off the beginning. -/
def readChain : Nat → List PlacedToken → Except ReadError (Taken Node)
  | 0, ts => .error (unexpected ts none)
  | fuel + 1, ts => do
      let (first, rest) ← readPipe fuel ts
      readJoined fuel first rest

/-- Joins further commands to those that were read. -/
def readJoined : Nat → Node → List PlacedToken → Except ReadError (Taken Node)
  | 0, _, ts => .error (unexpected ts none)
  | fuel + 1, first, ts =>
      match ts with
      | ⟨.mark .andThen, _⟩ :: rest => do
          let (second, rest) ← readPipe fuel (skipLines rest)
          readJoined fuel (.both first second) rest
      | ⟨.mark .orElse, _⟩ :: rest => do
          let (second, rest) ← readPipe fuel (skipLines rest)
          readJoined fuel (.either first second) rest
      | _ => .ok (first, ts)

/-- Takes commands of which each reads what the one before it writes off the
beginning; an exclamation mark in front turns success around. -/
def readPipe : Nat → List PlacedToken → Except ReadError (Taken Node)
  | 0, ts => .error (unexpected ts none)
  | fuel + 1, ts =>
      if head? ts = some "!" then do
        let (node, rest) ← readStages fuel (ts.drop 1)
        return (.negate node, rest)
      else readStages fuel ts

/-- Takes commands with bars between them off the beginning. -/
def readStages : Nat → List PlacedToken → Except ReadError (Taken Node)
  | 0, ts => .error (unexpected ts none)
  | fuel + 1, ts => do
      let (first, rest) ← readCommand fuel ts
      match rest with
      | ⟨.mark .pipe, _⟩ :: rest =>
          let (second, rest) ← readStages fuel (skipLines rest)
          return (.pipe first second, rest)
      | rest => return (first, rest)

/-- Takes the body of a loop off the beginning. -/
def readBody : Nat → List PlacedToken → Except ReadError (Taken Node)
  | 0, ts => .error (unexpected ts none)
  | fuel + 1, ts => do
      let ts ← expect "do" ts
      let (body, ts) ← readList fuel false ts
      let ts ← expect "done" ts
      return (body, ts)

/-- Takes the rest of a branch off the beginning, from its test on. -/
def readBranch : Nat → List PlacedToken → Except ReadError (Taken Node)
  | 0, ts => .error (unexpected ts none)
  | fuel + 1, ts => do
      let (test, ts) ← readList fuel false ts
      let ts ← expect "then" ts
      let (yes, ts) ← readList fuel false ts
      if head? ts = some "elif" then
        let (no, ts) ← readBranch fuel (ts.drop 1)
        return (.branch test yes no, ts)
      else if head? ts = some "else" then
        let (no, ts) ← readList fuel false (ts.drop 1)
        let ts ← expect "fi" ts
        return (.branch test yes no, ts)
      else
        let ts ← expect "fi" ts
        return (.branch test yes .nothing, ts)

/-- Takes the cases of a selection off the beginning, and the word that ends them. -/
def readCases : Nat → List PlacedToken → Except ReadError (Taken (List (List Word × Node)))
  | 0, ts => .error (unexpected ts none)
  | fuel + 1, ts => do
      let ts := skipLines ts
      if head? ts = some "esac" then return ([], ts.drop 1)
      else
        let ts := match ts with
          | ⟨.mark .parenOpen, _⟩ :: rest => rest
          | ts => ts
        let (patterns, ts) ← readPatterns (ts.length + 1) ts
        let ts ← expectClose ts
        let (body, ts) ← readList fuel true ts
        let ts := skipLines ts
        if head? ts = some "esac" then return ([(patterns, body)], ts.drop 1)
        else
          let ts ← expectMark .caseEnd ts
          let (more, ts) ← readCases fuel ts
          return ((patterns, body) :: more, ts)

/-- Takes a loop over words off the beginning, from its variable on. -/
def readEach : Nat → List PlacedToken → Except ReadError (Taken Node)
  | 0, ts => .error (unexpected ts none)
  | fuel + 1, ts => do
      let name := (head? ts).getD ""
      if !isName name.toList then
        throw ⟨(ts.head?.map (·.line)).getD 1, "Syntax error: Bad for loop variable"⟩
      else
        let rest := skipLines (ts.drop 1)
        if head? rest = some "in" then
          let (words, rest) := readWords (rest.drop 1)
          match rest with
          | ⟨.mark .semicolon, _⟩ :: rest | ⟨.newLine, _⟩ :: rest =>
              let (body, rest) ← readBody fuel (skipLines rest)
              return (.each name.toList words body, rest)
          | rest => throw (unexpected rest none)
        else
          let rest := match rest with
            | ⟨.mark .semicolon, _⟩ :: rest => rest
            | rest => rest
          let (body, rest) ← readBody fuel (skipLines rest)
          return (.each name.toList allArguments body, rest)

/-- Takes one command off the beginning. -/
def readCommand : Nat → List PlacedToken → Except ReadError (Taken Node)
  | 0, ts => .error (unexpected ts none)
  | fuel + 1, ts =>
      let line := (ts.head?.map (·.line)).getD 1
      match ts with
      | ⟨.mark .parenOpen, _⟩ :: rest => do
          let (body, rest) ← readList fuel false rest
          let rest ← expectMark .parenClose rest
          withRedirects line (.apart body) rest
      | ⟨.redirect _ _, _⟩ :: _ => readSimple fuel ts
      | ⟨.word _, _⟩ :: rest =>
          match head? ts with
          | some "if" => do
              let (node, rest) ← readBranch fuel rest
              withRedirects line node rest
          | some "while" => do
              let (test, rest) ← readList fuel false rest
              let (body, rest) ← readBody fuel rest
              withRedirects line (.loop true test body) rest
          | some "until" => do
              let (test, rest) ← readList fuel false rest
              let (body, rest) ← readBody fuel rest
              withRedirects line (.loop false test body) rest
          | some "for" => do
              let (node, rest) ← readEach fuel rest
              withRedirects line node rest
          | some "case" =>
              match rest with
              | ⟨.word word, _⟩ :: rest => do
                  let rest ← expect "in" (skipLines rest)
                  let (cases, rest) ← readCases fuel rest
                  withRedirects line (.select word cases) rest
              | _ => .error (unexpected rest (some "word"))
          | some "\x7b" => do
              let (body, rest) ← readList fuel false rest
              let rest ← expect "\x7d" rest
              withRedirects line body rest
          | some word =>
              if keywords.contains word then .error (unexpected ts none)
              else readSimple fuel ts
          | none => readSimple fuel ts
      | _ => .error (unexpected ts none)

/-- Takes a simple command or the definition of a function off the beginning. -/
def readSimple : Nat → List PlacedToken → Except ReadError (Taken Node)
  | 0, ts => .error (unexpected ts none)
  | fuel + 1, ts =>
      let line := (ts.head?.map (·.line)).getD 1
      match ts with
      | ⟨.word word, _⟩ :: ⟨.mark .parenOpen, place⟩ :: rest => do
          if (assignment? word).isSome then
            throw (unexpected (⟨.mark .parenOpen, place⟩ :: rest) none)
          let rest ← expectClose rest
          let name := (rawText word).1
          if !isName name then throw ⟨line, "Syntax error: Bad function name"⟩
          else
            let (body, rest) ← readCommand fuel (skipLines rest)
            return (.define name body, rest)
      | _ => do
          let ((words, redirects), rest) ← readParts (ts.length + 1) ts
          let (assignments, words) := splitAssignments words
          return (.simple line assignments words redirects, rest)

end

/-- Takes the commands of a line off the beginning, with the line break. -/
def readLine : Nat → List PlacedToken → Except ReadError (Taken Node)
  | 0, ts => .error (unexpected ts none)
  | fuel + 1, ts =>
      match ts with
      | ⟨.newLine, _⟩ :: rest => .ok (.nothing, rest)
      | ⟨.endOfScript, _⟩ :: _ => .ok (.nothing, ts)
      | _ => do
          let (first, rest) ← readChain (8 * ts.length + 8) ts
          match rest with
          | ⟨.newLine, _⟩ :: _ | ⟨.endOfScript, _⟩ :: _ =>
              let (more, rest) ← readLine fuel rest
              return (first.andThen more, rest)
          | ⟨.mark .semicolon, _⟩ :: rest =>
              let (more, rest) ← readLine fuel rest
              return (first.andThen more, rest)
          | ⟨.mark .background, _⟩ :: rest =>
              let (more, rest) ← readLine fuel rest
              return ((Node.background first).andThen more, rest)
          | rest => throw (unexpected rest none)

end SnapshotEngine.Shell
