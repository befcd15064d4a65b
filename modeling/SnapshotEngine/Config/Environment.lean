import SnapshotEngine.Config.Value
import SnapshotEngine.Table
import SnapshotEngine.Text.Cut
import SnapshotEngine.Text.Digits

/-!
# Configuration from the environment

A variable whose name begins with the mark of this configuration sets the field
named by the rest; upper and lower case are the same, and white space around the
name and around the rest does not count.  Two underscores or a full stop in the
rest lead into a table, which no field takes; a rest with an empty part sets
nothing.

The value is used without the white space around it.  A value with a comma in
it is a list, unless it begins with a bracket, a brace or a quote.  Any other
value may be a truth value, a whole number, a number with a decimal point, a
quoted text, a list or a table; what is none of these is a text.  Between the
parts of a list or a table only white space of ASCII may stand.
-/

namespace SnapshotEngine.Environment

/-- The white space between the parts of a list or a table. -/
def isSpacing (c : Char) : Bool :=
  c = ' ' || c = '\t' || c = '\n' || c = '\x0c' || c = '\r'

/-- Drops white space at the beginning. -/
def skipBlanks (cs : List Char) : List Char := cs.dropWhile isSpacing

/-- The characters that end a plain value. -/
def isSeparator (c : Char) : Bool :=
  c = ',' || c = '\x7b' || c = '\x7d' || c = '[' || c = ']'

/-- The characters of keys. -/
def isKeyChar (c : Char) : Bool := c.isAlphanum || c = '_' || c = '-'

/-- Whether a text is a number with a decimal point. -/
def isDecimal (cs : List Char) : Bool :=
  let unsigned := Digits.dropSign cs
  let mantissa := unsigned.takeWhile fun c => c.isDigit || c = '.'
  let exponent := unsigned.dropWhile fun c => c.isDigit || c = '.'
  let exponentGood :=
    match exponent with
    | [] => true
    | c :: rest =>
        let digits := Digits.dropSign rest
        (c = 'e' || c = 'E') && !digits.isEmpty && digits.all Char.isDigit
  mantissa.count '.' == 1 && mantissa.any Char.isDigit && exponentGood

/-- The whole number that a text is, if it is one of 64 bits. -/
def integer? (cs : List Char) : Option Int :=
  let unsigned := Digits.dropSign cs
  if unsigned.isEmpty || !unsigned.all Char.isDigit then none
  else
    let n := Digits.value unsigned
    match cs with
    | '-' :: _ => if n ≤ Nat.pow 2 63 then some (-(n : Int)) else none
    | _ => if n < Nat.pow 2 64 then some n else none

/-- The value of a plain text. -/
def ofPlain (cs : List Char) : ConfigValue :=
  let trimmed := Text.strip Text.isBlank cs
  if trimmed.contains '.' && isDecimal trimmed then .other
  else
    match integer? trimmed with
    | some n => .integer n
    | none => .text (String.ofList trimmed)

/-- Whether a character may stand in a quoted text as it is. -/
def isPlainInQuotes (c : Char) : Bool :=
  c = '\t' || (0x20 ≤ c.toNat && c.toNat != 0x7F)

/-- Reads a quoted text up to the quote that ends it. -/
def readQuoted : Nat → List Char → Option (List Char × List Char)
  | 0, _ => none
  | _ + 1, [] => none
  | _ + 1, '"' :: rest => some ([], rest)
  | fuel + 1, '\\' :: c :: rest =>
      let simple : Option (Char × List Char) :=
        match c with
        | '"' => some ('"', rest)
        | '\\' => some ('\\', rest)
        | 'b' => some ('\x08', rest)
        | 'f' => some ('\x0c', rest)
        | 'n' => some ('\n', rest)
        | 'r' => some ('\r', rest)
        | 't' => some ('\t', rest)
        | 'u' => Hex.char? 4 rest
        | 'U' => Hex.char? 8 rest
        | _ => none
      match simple with
      | some (plain, after) => (readQuoted fuel after).map fun r => (plain :: r.1, r.2)
      | none => none
  | fuel + 1, c :: rest =>
      if isPlainInQuotes c then (readQuoted fuel rest).map fun r => (c :: r.1, r.2) else none

mutual

/-- Reads a value, with the white space around it. -/
def readValue : Nat → List Char → Option (ConfigValue × List Char)
  | 0, _ => none
  | fuel + 1, cs =>
      let after : Option (ConfigValue × List Char) :=
        match skipBlanks cs with
        | 't' :: 'r' :: 'u' :: 'e' :: rest => some (.other, rest)
        | 'f' :: 'a' :: 'l' :: 's' :: 'e' :: rest => some (.other, rest)
        | '\x7b' :: rest => (readEntries fuel rest).map fun rest => (.other, rest)
        | '[' :: rest => (readItems fuel rest).map fun rest => (.other, rest)
        | '"' :: rest =>
            (readQuoted (rest.length + 1) rest).map fun r => (.text (String.ofList r.1), r.2)
        | '\'' :: c :: '\'' :: rest => some (.text (String.ofList [c]), rest)
        | '\'' :: _ => none
        | rest =>
            some (ofPlain (rest.takeWhile (!isSeparator ·)), rest.dropWhile (!isSeparator ·))
      after.map fun r => (r.1, skipBlanks r.2)

/-- Reads the items of a list up to the bracket that ends it. -/
def readItems : Nat → List Char → Option (List Char)
  | 0, _ => none
  | _ + 1, ']' :: rest => some rest
  | fuel + 1, cs =>
      match readValue fuel cs with
      | some (_, ']' :: rest) => some rest
      | some (_, ',' :: rest) => readItems fuel rest
      | _ => none

/-- Reads the entries of a table up to the brace that ends it. -/
def readEntries : Nat → List Char → Option (List Char)
  | 0, _ => none
  | _ + 1, '\x7d' :: rest => some rest
  | fuel + 1, cs =>
      let start := skipBlanks cs
      let afterKey : Option (List Char) :=
        match start with
        | '"' :: rest => (readQuoted (rest.length + 1) rest).map (·.2)
        | c :: _ => if isKeyChar c then some (start.dropWhile isKeyChar) else none
        | [] => none
      match afterKey.map skipBlanks with
      | some ('=' :: rest) =>
          match readValue fuel rest with
          | some (_, '\x7d' :: rest) => some rest
          | some (_, ',' :: rest) => readEntries fuel rest
          | _ => none
      | _ => none

end

/-- The value of a text. -/
def ofText (s : String) : ConfigValue :=
  let cs := Text.strip Text.isBlank s.toList
  let isQuoted :=
    match cs with
    | c :: _ => c = '[' || c = '\x7b' || c = '"' || c = '\''
    | [] => false
  if cs.contains ',' && !isQuoted then .other
  else
    match readValue (2 * cs.length + 2) cs with
    | some (value, []) => value
    | _ => .text (String.ofList cs)

/-- A name with a full stop in place of every two underscores. -/
def dotted : List Char → List Char
  | '_' :: '_' :: rest => '.' :: dotted rest
  | c :: rest => c :: dotted rest
  | [] => []

/-- The parts of what follows the mark in a name. -/
def parts (rest : List Char) : List (List Char) :=
  (Text.strip Text.isBlank (dotted rest)).splitOn '.'

/-- The key that a variable sets and whether it leads into a table; nothing if it
is not meant for a configuration. -/
def key? (name : String) : Option (String × Bool) :=
  let lower := (Text.strip Text.isBlank name.toList).map Char.toLower
  let start := ConfigField.environmentStart.toList.map Char.toLower
  if start.isPrefixOf lower then
    let path := parts (lower.drop start.length)
    if path.contains [] then none
    else some (String.ofList (path.headD []), 1 < path.length)
  else none

/-- The values that variables set; of two for one key the one counts whose name
comes later in alphabetical order. -/
def values (environment : List (String × String)) : Table String ConfigValue :=
  let sorted := environment.mergeSort fun a b => decide (a.1 ≤ b.1)
  Table.ofList (sorted.filterMap fun (name, value) =>
    (key? name).map fun (key, nested) =>
      (key, if nested then .other else ofText value))

end SnapshotEngine.Environment
