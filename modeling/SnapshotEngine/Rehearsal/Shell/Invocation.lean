import SnapshotEngine.Rehearsal.Shell.Arithmetic

/-!
# How a shell is called

The words behind the name of a shell are options, then perhaps a script or the path
of one, and what is behind that is for the script.  The same options can be changed
by the script itself.
-/

namespace SnapshotEngine.Shell

/-- The options, by the names they also have. -/
def optionNames : List (String × Char) :=
  [("errexit", 'e'), ("noglob", 'f'), ("ignoreeof", 'I'), ("interactive", 'i'),
    ("monitor", 'm'), ("noexec", 'n'), ("stdin", 's'), ("xtrace", 'x'), ("verbose", 'v'),
    ("vi", 'V'), ("emacs", 'E'), ("noclobber", 'C'), ("allexport", 'a'), ("notify", 'b'),
    ("nounset", 'u'), ("privileged", 'p')]

/-- The options that only have a name and do nothing. -/
def idleOptions : List String := ["nolog", "debug"]

/-- The options that are set, the last one first. -/
def ordered (options : List Char) : List Char :=
  ((optionNames.map (·.2)).filter options.contains).reverse

/-- Sets an option or takes it back. -/
def change (options : List Char) (isSet : Bool) (option : Char) : List Char :=
  if isSet then if options.contains option then options else option :: options
  else options.filter (· ≠ option)

/-- What options have changed. -/
structure OptionChange where
  options : List Char
  /-- Whether the next word is a script. -/
  takesScript : Bool
  /-- The words behind the options. -/
  rest : List (List Char)
  /-- Whether the words behind are all there is, even if there are none. -/
  isAll : Bool
deriving Inhabited

/-- Changes the options that the letters of a word name; an `o` takes its name from the
next word. -/
def readLetters (forShell isSet : Bool) :
    List Char → List Char → List (List Char) → Except String (List Char × Bool × List (List Char))
  | options, [], rest => .ok (options, false, rest)
  | options, c :: letters, rest =>
      if c = 'c' && forShell then do
        let (options, _, rest) ← readLetters forShell isSet options letters rest
        return (options, true, rest)
      else if c = 'l' && forShell then readLetters forShell isSet options letters rest
      else if c = 'o' then
        match rest with
        | [] => readLetters forShell isSet options letters []
        | name :: rest =>
            match optionNames.find? fun o => o.1.toList == name with
            | some o => readLetters forShell isSet (change options isSet o.2) letters rest
            | none =>
                if idleOptions.contains (String.ofList name) then
                  readLetters forShell isSet options letters rest
                else .error ("Illegal option -o " ++ String.ofList name)
      else if optionNames.any fun o => o.2 = c then
        readLetters forShell isSet (change options isSet c) letters rest
      else .error ("Illegal option -" ++ c.toString)

/-- Changes options as words say, up to the first that does not name any. -/
def readOptions (forShell : Bool) :
    Nat → List Char → List (List Char) → Except String OptionChange
  | 0, options, words => .ok ⟨options, false, words, false⟩
  | fuel + 1, options, words =>
      match words with
      | [] => .ok ⟨options, false, [], false⟩
      | ['-'] :: rest =>
          .ok ⟨if forShell then options else options.filter fun c => c ≠ 'x' && c ≠ 'v', false, rest,
            false⟩
      | ['-', '-'] :: rest => .ok ⟨options, false, rest, !forShell⟩
      | (mark :: letters) :: rest =>
          if mark = '-' || mark = '+' then do
            let (options, takesScript, rest) ←
              readLetters forShell (mark = '-') options letters rest
            let more ← readOptions forShell fuel options rest
            return { more with takesScript := takesScript || more.takesScript }
          else .ok ⟨options, false, words, false⟩
      | [] :: _ => .ok ⟨options, false, words, false⟩

/-- Where a shell finds its script. -/
inductive Source where
  | script (text : List Char)
  | file (path : List Char)
  | input
deriving DecidableEq, Repr, Inhabited

/-- How a shell is called. -/
structure Invocation where
  options : List Char
  source : Source
  /-- What the script calls itself. -/
  name : List Char
  arguments : List (List Char)
deriving DecidableEq, Repr, Inhabited

/-- Reads the words behind the name of a shell. -/
def invocation (name : List Char) (words : List (List Char)) : Except String Invocation := do
  let change ← readOptions true (words.length + 1) [] words
  match change.takesScript, change.rest with
  | true, [] => throw "-c requires an argument"
  | true, script :: rest =>
      return ⟨change.options, .script script, rest.headD name, rest.tail⟩
  | false, [] => return ⟨'s' :: change.options, .input, name, []⟩
  | false, path :: rest =>
      if change.options.contains 's' then return ⟨change.options, .input, name, path :: rest⟩
      else return ⟨change.options, .file path, path, rest⟩

end SnapshotEngine.Shell
