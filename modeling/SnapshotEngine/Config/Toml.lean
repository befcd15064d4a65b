import SnapshotEngine.Config.Environment
import SnapshotEngine.Text.Decimal
import SnapshotEngine.Text.Line

/-!
# Configuration files in TOML

A file is a sequence of lines: assignments to keys, and headers that open the
table which the assignments after them belong to.  A key may be a path of names
with full stops between them.  Of the file only the values of the outermost keys
are kept, but all of it has to be well formed, and nothing may be defined twice.
Lists and tables within brackets are nested less than eighty deep, and a path has
less than eighty names.
-/

namespace SnapshotEngine.Toml

open Text (isGap skipGaps)

/-- Takes a line break off the beginning. -/
def lineBreak? : List Char → Option (List Char)
  | '\n' :: rest => some rest
  | '\r' :: '\n' :: rest => some rest
  | _ => none

/-- Whether a character may stand in a comment or a literal text. -/
def isPlain (c : Char) : Bool := c = '\t' || (0x20 ≤ c.toNat && c.toNat != 0x7F)

/-- Drops a comment, up to the end of the line. -/
def skipComment : List Char → Option (List Char)
  | '#' :: rest =>
      let after := rest.dropWhile isPlain
      if after.isEmpty || (lineBreak? after).isSome then some after else none
  | cs => some cs

/-- Drops white space, comments and line breaks. -/
def skipSpace : Nat → List Char → Option (List Char)
  | 0, _ => none
  | fuel + 1, cs =>
      match skipComment (skipGaps cs) with
      | none => none
      | some after =>
          match lineBreak? after with
          | some rest => skipSpace fuel rest
          | none => some after

/-- Takes the end of a line off the beginning: white space, a comment, and a line
break or the end of the file. -/
def endOfLine? (cs : List Char) : Option (List Char) :=
  match skipComment (skipGaps cs) with
  | some [] => some []
  | some after => lineBreak? after
  | none => none

/-- The character that an escape stands for, and the rest. -/
def escape? : List Char → Option (Char × List Char)
  | '"' :: rest => some ('"', rest)
  | '\\' :: rest => some ('\\', rest)
  | 'b' :: rest => some ('\x08', rest)
  | 'f' :: rest => some ('\x0c', rest)
  | 'n' :: rest => some ('\n', rest)
  | 'r' :: rest => some ('\r', rest)
  | 't' :: rest => some ('\t', rest)
  | 'u' :: rest => Hex.char? 4 rest
  | 'U' :: rest => Hex.char? 8 rest
  | _ => none

/-- Reads a text on one line up to the quote that ends it. -/
def readBasic : Nat → List Char → Option (List Char × List Char)
  | 0, _ => none
  | _ + 1, [] => none
  | _ + 1, '"' :: rest => some ([], rest)
  | fuel + 1, '\\' :: rest =>
      match escape? rest with
      | some (c, after) => (readBasic fuel after).map fun r => (c :: r.1, r.2)
      | none => none
  | fuel + 1, c :: rest =>
      if isPlain c then (readBasic fuel rest).map fun r => (c :: r.1, r.2) else none

/-- Reads a text without escapes on one line up to the quote that ends it. -/
def readLiteral : List Char → Option (List Char × List Char)
  | [] => none
  | c :: rest =>
      if c = '\'' then some ([], rest)
      else if isPlain c then (readLiteral rest).map fun r => (c :: r.1, r.2)
      else none

/-- The quotes at the end of a text on several lines: three of them end it, and
up to two more belong to the text. -/
def closing? (quote : Char) (cs : List Char) : Option (List Char × List Char) :=
  let quotes := (cs.takeWhile (· = quote)).length
  if quotes < 3 then none
  else
    let extra := min (quotes - 3) 2
    some (List.replicate extra quote, cs.drop (3 + extra))

/-- Reads a text on several lines up to the quotes that end it; a backslash at
the end of a line drops the white space up to the next character. -/
def readLines (escapes : Bool) (quote : Char) : Nat → List Char → Option (List Char × List Char)
  | 0, _ => none
  | _ + 1, [] => none
  | fuel + 1, c :: rest =>
      match closing? quote (c :: rest) with
      | some found => some found
      | none =>
          if escapes && c = '\\' then
            match escape? rest with
            | some (e, after) =>
                (readLines escapes quote fuel after).map fun r => (e :: r.1, r.2)
            | none =>
                match lineBreak? (skipGaps rest) with
                | some after =>
                    readLines escapes quote fuel
                      (after.dropWhile fun c => isGap c || c = '\n' || c = '\r')
                | none => none
          else
            match lineBreak? (c :: rest) with
            | some after =>
                (readLines escapes quote fuel after).map fun r => ('\n' :: r.1, r.2)
            | none =>
                if isPlain c then
                  (readLines escapes quote fuel rest).map fun r => (c :: r.1, r.2)
                else none

/-- Drops a line break right behind the quotes that open a text. -/
def afterOpening (cs : List Char) : List Char := (lineBreak? cs).getD cs

/-- Reads a text of any of the four kinds. -/
def readText? (cs : List Char) : Option (List Char × List Char) :=
  let fuel := cs.length + 1
  match cs with
  | '"' :: '"' :: '"' :: rest => readLines true '"' fuel (afterOpening rest)
  | '\'' :: '\'' :: '\'' :: rest => readLines false '\'' fuel (afterOpening rest)
  | '"' :: rest => readBasic fuel rest
  | '\'' :: rest => readLiteral rest
  | _ => none

/-- Reads one name of a key. -/
def readName? (cs : List Char) : Option (String × List Char) :=
  match cs with
  | '"' :: rest => (readBasic (cs.length + 1) rest).map fun r => (String.ofList r.1, r.2)
  | '\'' :: rest => (readLiteral rest).map fun r => (String.ofList r.1, r.2)
  | _ =>
      let name := cs.takeWhile Environment.isKeyChar
      if name.isEmpty then none
      else some (String.ofList name, cs.dropWhile Environment.isKeyChar)

/-- How deep lists and tables may be nested, and how many names a key may have. -/
def maxDepth : Nat := 79

/-- Reads at most `count` names with full stops between them. -/
def readNames : Nat → List Char → Option (List String × List Char)
  | 0, _ => none
  | count + 1, cs => do
      let (name, rest) ← readName? (skipGaps cs)
      match skipGaps rest with
      | '.' :: more =>
          let (names, after) ← readNames count more
          return (name :: names, after)
      | after => return ([name], after)

/-- Reads a key: names with full stops between them. -/
def readKey (cs : List Char) : Option (List String × List Char) := readNames maxDepth cs

/-- The digits of a number, without the underscores between them; an underscore
that is not between two digits is an error. -/
def joinDigits (isDigit : Char → Bool) (cs : List Char) : Option (List Char) :=
  let rec go : List Char → Bool → Option (List Char)
    | [], afterDigit => if afterDigit then some [] else none
    | '_' :: rest, afterDigit => if afterDigit then go rest false else none
    | c :: rest, _ => if isDigit c then (go rest true).map (c :: ·) else none
  go cs false

/-- A whole number of 64 bits. -/
def bounded (n : Int) : Option ConfigValue :=
  if -(Nat.pow 2 63) ≤ n ∧ n < Nat.pow 2 63 then some (.integer n) else none

/-- Whether digits have no needless zero in front. -/
def isCanonical : List Char → Bool
  | '0' :: _ :: _ => false
  | _ => true

/-- The whole number that a word is. -/
def integer? (cs : List Char) : Option ConfigValue :=
  let based (base : Nat) (digits : List Char) : Option ConfigValue := do
    let joined ← joinDigits (fun c => ((Hex.value? c).any (· < base))) digits
    bounded (← Digits.ofBase? base joined)
  match cs with
  | '0' :: 'x' :: digits => based 16 digits
  | '0' :: 'o' :: digits => based 8 digits
  | '0' :: 'b' :: digits => based 2 digits
  | _ => do
      let joined ← joinDigits Char.isDigit (Digits.dropSign cs)
      if isCanonical joined then
        let n ← Digits.ofBase? 10 joined
        bounded (match cs with | '-' :: _ => -(n : Int) | _ => n)
      else none

/-- Whether a word is a number with a fraction or an exponent, or one of the two
that are no numbers.  A number that is too large to be a floating-point number
is none. -/
def isFloat (cs : List Char) : Bool :=
  let unsigned := Digits.dropSign cs
  if unsigned = ['i', 'n', 'f'] || unsigned = ['n', 'a', 'n'] then true
  else
    let isMark (c : Char) : Bool := c = 'e' || c = 'E'
    let mantissa := unsigned.takeWhile (!isMark ·)
    let exponent := unsigned.dropWhile (!isMark ·)
    let whole := mantissa.takeWhile (· ≠ '.')
    let fraction := mantissa.dropWhile (· ≠ '.')
    let wholeGood := (joinDigits Char.isDigit whole).any isCanonical
    let fractionGood :=
      match fraction with
      | [] => !exponent.isEmpty
      | _ :: digits => (joinDigits Char.isDigit digits).isSome
    let exponentGood :=
      match exponent with
      | [] => true
      | _ :: digits => (joinDigits Char.isDigit (Digits.dropSign digits)).isSome
    wholeGood && fractionGood && exponentGood
      && (Decimal.ofUnsigned (unsigned.filter (· ≠ '_'))).isFinite

/-- Takes a number of `count` digits off the beginning. -/
def digits? (count : Nat) (cs : List Char) : Option (Nat × List Char) :=
  let digits := cs.take count
  if digits.length = count && digits.all Char.isDigit then
    some (Digits.value digits, cs.drop count)
  else none

/-- Takes a number of two digits up to a bound off the beginning. -/
def twoDigits? (low high : Nat) (cs : List Char) : Option (List Char) :=
  ((digits? 2 cs).filter fun r => low ≤ r.1 && r.1 ≤ high).map (·.2)

/-- Takes a mark off the beginning. -/
def mark? (mark : Char) : List Char → Option (List Char)
  | c :: rest => if c = mark then some rest else none
  | [] => none

/-- Takes a time of day off the beginning. -/
def time? (cs : List Char) : Option (List Char) := do
  let cs ← twoDigits? 0 23 cs
  let cs ← mark? ':' cs
  let cs ← twoDigits? 0 59 cs
  let cs ← mark? ':' cs
  let cs ← twoDigits? 0 60 cs
  match cs with
  | '.' :: rest =>
      if (rest.takeWhile Char.isDigit).isEmpty then none else some (rest.dropWhile Char.isDigit)
  | _ => some cs

/-- Whether a year has a day more than others. -/
def isLeapYear (year : Nat) : Bool :=
  year % 4 = 0 && (year % 100 ≠ 0 || year % 400 = 0)

/-- The number of days of a month. -/
def daysOfMonth (year month : Nat) : Nat :=
  if month = 2 then if isLeapYear year then 29 else 28
  else if month = 4 || month = 6 || month = 9 || month = 11 then 30
  else 31

/-- Takes a date off the beginning. -/
def date? (cs : List Char) : Option (List Char) := do
  let (year, cs) ← digits? 4 cs
  let cs ← mark? '-' cs
  let (month, cs) ← digits? 2 cs
  let cs ← mark? '-' cs
  if 1 ≤ month ∧ month ≤ 12 then twoDigits? 1 (daysOfMonth year month) cs else none

/-- Whether a word ends a moment: nothing, or how far it is from universal
time. -/
def isOffset : List Char → Bool
  | [] | ['Z'] | ['z'] => true
  | c :: rest =>
      (c = '+' || c = '-') &&
        ((twoDigits? 0 23 rest).bind (mark? ':') |>.bind (twoDigits? 0 59)) = some []

/-- Whether a word is a date, a time of day, or both. -/
def isMoment (cs : List Char) : Bool :=
  match date? cs with
  | some [] => true
  | some (c :: rest) =>
      (c = 'T' || c = 't' || c = ' ') && (time? rest).any isOffset
  | none => time? cs = some []

/-- The characters of words that are no texts. -/
def isWordChar (c : Char) : Bool :=
  c.isAlphanum || c = '_' || c = '+' || c = '-' || c = '.' || c = ':'

/-- Reads a word that is no text; a date and a time may have a space between
them. -/
def readWord (cs : List Char) : List Char × List Char :=
  let word := cs.takeWhile isWordChar
  let rest := cs.dropWhile isWordChar
  match rest with
  | ' ' :: c :: more =>
      if date? word = some [] && c.isDigit then
        (word ++ ' ' :: (c :: more).takeWhile isWordChar, (c :: more).dropWhile isWordChar)
      else (word, rest)
  | _ => (word, rest)

/-- The value of a word that is no text. -/
def ofWord (word : List Char) : Option ConfigValue :=
  if word = ['t', 'r', 'u', 'e'] || word = ['f', 'a', 'l', 's', 'e'] then some .other
  else
    match integer? word with
    | some value => some value
    | none => if isFloat word || isMoment word then some .other else none

/-- What a path leads to. -/
inductive Kind where
  /-- A value, which nothing can be added to. -/
  | value (v : ConfigValue)
  /-- A table that was only passed through on the way to another. -/
  | passed
  /-- A table that a header has opened. -/
  | opened
  /-- A table that a key has made, in the table with the given path. -/
  | keyed (base : List String)
  /-- A list of tables, of that length. -/
  | tables (length : Nat)
deriving Repr, Inhabited

/-- All that was defined so far. -/
abbrev Definitions := Table (List String) Kind

/-- The name of a table in a list. -/
def memberName (index : Nat) : String := "#" ++ toString index

/-- Follows a header up to its last name, into the last table of every list. -/
def follow (defs : Definitions) (path : List String) : List String →
    Option (List String × Definitions)
  | [] => some (path, defs)
  | name :: more =>
      let here := path ++ [name]
      match defs.get? here with
      | none => follow (defs.insert here .passed) here more
      | some (.tables n) => follow defs (here ++ [memberName n]) more
      | some (.value _) => none
      | some _ => follow defs here more

/-- Opens a table. -/
def openTable (defs : Definitions) (key : List String) : Option (List String × Definitions) := do
  let (parent, defs) ← follow defs [] key.dropLast
  let here := parent ++ [key.getLastD ""]
  match defs.get? here with
  | none | some .passed => some (here, defs.insert here .opened)
  | some _ => none

/-- Opens a further table of a list. -/
def openMember (defs : Definitions) (key : List String) : Option (List String × Definitions) := do
  let (parent, defs) ← follow defs [] key.dropLast
  let here := parent ++ [key.getLastD ""]
  let next (n : Nat) : List String × Definitions :=
    let member := here ++ [memberName n]
    (member, (defs.insert here (.tables n)).insert member .opened)
  match defs.get? here with
  | none => some (next 0)
  | some (.tables n) => some (next (n + 1))
  | some _ => none

/-- Defines the value of a key in a table. -/
def define (defs : Definitions) (base : List String) (v : ConfigValue) (path : List String) :
    List String → Option Definitions
  | [] => none
  | [name] =>
      let here := path ++ [name]
      match defs.get? here with
      | none => some (defs.insert here (.value v))
      | some _ => none
  | name :: more =>
      let here := path ++ [name]
      match defs.get? here with
      | none => define (defs.insert here (.keyed base)) base v here more
      | some (.keyed other) => if other = base then define defs base v here more else none
      | some _ => none

mutual

/-- Reads a value, with lists and tables in it nested at most `depth` deep. -/
def readValue : Nat → Nat → List Char → Option (ConfigValue × List Char)
  | 0, _, _ => none
  | fuel + 1, depth, cs =>
      match cs with
      | '"' :: _ | '\'' :: _ => (readText? cs).map fun r => (.text (String.ofList r.1), r.2)
      | '[' :: rest =>
          if depth = 0 then none
          else (readItems fuel (depth - 1) rest).map fun rest => (.other, rest)
      | '\x7b' :: rest =>
          if depth = 0 then none
          else
            match skipGaps rest with
            | '\x7d' :: after => some (.other, after)
            | _ => (readEntries fuel (depth - 1) .empty rest).map fun rest => (.other, rest)
      | _ =>
          let (word, rest) := readWord cs
          (ofWord word).map fun v => (v, rest)

/-- Reads the items of a list up to the bracket that ends it. -/
def readItems : Nat → Nat → List Char → Option (List Char)
  | 0, _, _ => none
  | fuel + 1, depth, cs =>
      match skipSpace (cs.length + 1) cs with
      | none => none
      | some (']' :: rest) => some rest
      | some start =>
          match readValue fuel depth start with
          | none => none
          | some (_, after) =>
              match skipSpace (after.length + 1) after with
              | some (',' :: rest) => readItems fuel depth rest
              | some (']' :: rest) => some rest
              | _ => none

/-- Reads the entries of a table on one line up to the brace that ends it. -/
def readEntries : Nat → Nat → Definitions → List Char → Option (List Char)
  | 0, _, _, _ => none
  | fuel + 1, depth, defs, cs =>
      match readKey cs with
      | some (key, '=' :: rest) =>
          match readValue fuel depth (skipGaps rest) with
          | none => none
          | some (v, after) =>
              match define defs [] v [] key with
              | none => none
              | some defs =>
                  match skipGaps after with
                  | ',' :: rest => readEntries fuel depth defs rest
                  | '\x7d' :: rest => some rest
                  | _ => none
      | _ => none

end

/-- Reads a header behind its opening brackets. -/
def readHeader (closing : List Char) (cs : List Char) : Option (List String × List Char) := do
  let (key, rest) ← readKey cs
  if closing.isPrefixOf rest then
    let after ← endOfLine? (rest.drop closing.length)
    return (key, after)
  else none

/-- Reads the lines of a file, in the table with the given path. -/
def readFile : Nat → Definitions → List String → List Char → Option Definitions
  | 0, _, _, _ => none
  | fuel + 1, defs, base, cs =>
      match skipSpace (cs.length + 1) cs with
      | none => none
      | some [] => some defs
      | some ('[' :: '[' :: rest) => do
          let (key, after) ← readHeader [']', ']'] rest
          let (base, defs) ← openMember defs key
          readFile fuel defs base after
      | some ('[' :: rest) => do
          let (key, after) ← readHeader [']'] rest
          let (base, defs) ← openTable defs key
          readFile fuel defs base after
      | some start =>
          match readKey start with
          | some (key, '=' :: rest) => do
              let (v, after) ← readValue (rest.length + 2) maxDepth (skipGaps rest)
              let after ← endOfLine? after
              let defs ← define defs base v base key
              readFile fuel defs base after
          | _ => none

/-- The values of the outermost keys of a file, in front of which a byte order mark
may stand; nothing if it cannot be read. -/
def values? (text : String) : Option (Table String ConfigValue) := do
  let cs := Text.dropMark text.toList
  let defs ← readFile (cs.length + 1) .empty [] cs
  return Table.ofList (defs.entries.filterMap fun (path, kind) =>
    match path, kind with
    | [key], .value v => some (key, v)
    | [key], _ => some (key, .other)
    | _, _ => none)

end SnapshotEngine.Toml
