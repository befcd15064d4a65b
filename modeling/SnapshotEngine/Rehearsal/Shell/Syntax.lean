/-!
# Commands of a small shell

A script is a command made of commands.  The texts in it are byte sequences,
written as characters with codes below 256.

A word is made of pieces: text, and expansions whose value is known only when
the command runs.  What stands between quotes is never taken apart.
-/

namespace SnapshotEngine.Shell

/-- What a text behind a parameter is for. -/
inductive Choice where
  /-- It stands in for a missing value. -/
  | fallback
  /-- It stands in for a missing value and becomes the value. -/
  | assignment
  /-- It is the complaint about a missing value. -/
  | complaint
  /-- It stands in for a value that is there. -/
  | replacement
deriving DecidableEq, Repr, Inhabited

/-- What is put in place of a part of a word. -/
inductive Expansion where
  /-- The value of a parameter. -/
  | parameter (name : List Char)
  /-- The value of a parameter or a text, depending on whether there is a value;
  `emptyToo` says whether an empty one counts as missing. -/
  | choice (name : List Char) (choice : Choice) (emptyToo : Bool) (text : List Char)
  /-- The value of a parameter without the shortest or longest part at one end that
  matches a pattern. -/
  | cut (name : List Char) (isAtEnd isLongest : Bool) (pattern : List Char)
  /-- The length of the value of a parameter. -/
  | length (name : List Char)
  /-- The value of an arithmetic expression. -/
  | arithmetic (body : List Char)
  /-- The output of a script. -/
  | output (script : List Char)
  /-- Something that is no expansion. -/
  | unknown
deriving DecidableEq, Repr, Inhabited

/-- A piece of a word. -/
inductive Piece where
  | text (quoted : Bool) (cs : List Char)
  /-- A text that is taken apart at its white space. -/
  | loose (cs : List Char)
  | expansion (quoted : Bool) (e : Expansion)
deriving DecidableEq, Repr, Inhabited

/-- A word. -/
abbrev Word := List Piece

/-- Where a redirection leads. -/
inductive RedirectKind where
  /-- To what another number stands for. -/
  | duplicate
  /-- To a file, which is written. -/
  | write
  /-- To the end of a file. -/
  | append
  /-- From a file, which is read. -/
  | read
  /-- From the text in the script. -/
  | here
deriving DecidableEq, Repr, Inhabited

/-- A redirection of a numbered stream. -/
structure Redirect where
  stream : Nat
  kind : RedirectKind
  target : Word
deriving DecidableEq, Repr, Inhabited

/-- A command. -/
inductive Node where
  /-- Assignments, then a command with its arguments, on the given line. -/
  | simple (line : Nat) (assignments : List (List Char × Word)) (words : List Word)
      (redirects : List Redirect)
  /-- Commands of which each reads what the one before it writes. -/
  | pipe (first : Node) (second : Node)
  | negate (node : Node)
  | both (first : Node) (second : Node)
  | either (first : Node) (second : Node)
  | sequence (first : Node) (second : Node)
  /-- The command that does nothing. -/
  | nothing
  /-- A command whose end does not end the script. -/
  | apart (body : Node)
  /-- A command that the script does not wait for. -/
  | background (body : Node)
  | branch (test yes no : Node)
  /-- A loop that goes on while its test succeeds, or while it fails. -/
  | loop (whileSuccess : Bool) (test body : Node)
  | each (name : List Char) (words : List Word) (body : Node)
  /-- The first command with a pattern that a word matches. -/
  | select (word : Word) (cases : List (List Word × Node))
  /-- A name for a command. -/
  | define (name : List Char) (body : Node)
  /-- A command that begins on the given line, with redirections. -/
  | redirected (line : Nat) (body : Node) (redirects : List Redirect)
deriving Repr, Inhabited

/-- The marks between commands. -/
inductive Mark where
  | semicolon
  | background
  | caseEnd
  | andThen
  | orElse
  | pipe
  | parenOpen
  | parenClose
deriving DecidableEq, Repr, Inhabited

namespace Mark

/-- How a mark is written. -/
def text : Mark → String
  | .semicolon => ";"
  | .background => "&"
  | .caseEnd => ";;"
  | .andThen => "&&"
  | .orElse => "||"
  | .pipe => "|"
  | .parenOpen => "("
  | .parenClose => ")"

end Mark

/-- The parts that a script is read as. -/
inductive Token where
  | word (w : Word)
  | newLine
  | mark (m : Mark)
  | redirect (stream : Nat) (kind : RedirectKind)
  | endOfScript
  /-- The script breaks off, for the given reason. -/
  | broken (reason : String)
deriving DecidableEq, Repr, Inhabited

/-- A token and the line it stands on. -/
structure PlacedToken where
  token : Token
  line : Nat
deriving DecidableEq, Repr, Inhabited

end SnapshotEngine.Shell
