import SnapshotEngine.Config.Value
import SnapshotEngine.Config.Yaml.Node
import SnapshotEngine.Text.Base64
import SnapshotEngine.Text.Blank
import SnapshotEngine.Text.Decimal

/-!
# The values of a YAML document

A plain scalar is a truth value, a number or a text, depending on how it is spelled;
any other scalar is a text.  Only its tag can say that a scalar is nothing.  Numbers
without a floating-point number next to them are texts again.

The keys of a table are texts, and none may occur twice.  The entries of other tables
are merged into a table under the key `<<`, as far as it has no entries with these
keys of its own.
-/

namespace SnapshotEngine.Yaml

/-! ## Plain scalars -/

namespace Word

/-- Drops a mark off the beginning of a number: its base is sixteen, eight or two. -/
def base (cs : List Char) : Nat × List Char :=
  match cs with
  | '0' :: 'x' :: digits | '0' :: 'X' :: digits => (16, digits)
  | '0' :: 'o' :: digits | '0' :: 'O' :: digits => (8, digits)
  | '0' :: 'b' :: digits | '0' :: 'B' :: digits => (2, digits)
  | _ => (10, cs)

/-- The natural number that a text without a sign is; underscores in it mean
nothing. -/
def natural? (cs : List Char) : Option Nat :=
  let (base, written) := base cs
  let digits := written.filter (· ≠ '_')
  if digits.isEmpty then none else Digits.ofBase? base digits

/-- The whole number of 64 bits that a text is. -/
def integer? (cs : List Char) : Option Int :=
  match cs with
  | '-' :: rest => ((natural? rest).filter (· ≤ Nat.pow 2 63)).map fun n => -(n : Int)
  | _ => ((natural? (Digits.dropSign cs)).filter (· < Nat.pow 2 64)).map fun n => (n : Int)

/-- Whether a text without a sign is a number with digits. -/
def isDecimal (cs : List Char) : Bool :=
  let isExponent (c : Char) : Bool := c = 'e' || c = 'E'
  let mantissa := cs.takeWhile (!isExponent ·)
  let exponentGood :=
    match cs.dropWhile (!isExponent ·) with
    | [] => true
    | _ :: signed =>
        let digits := Digits.dropSign signed
        !digits.isEmpty && digits.all Char.isDigit
  mantissa.any Char.isDigit && mantissa.all (fun c => c.isDigit || c = '.')
    && mantissa.count '.' ≤ 1 && exponentGood

/-- The words for infinity, in lower case and without a sign. -/
def infinityWords : List String := [".inf", "inf", "infinity"]

/-- The words for what is no number, in lower case and without a sign. -/
def noNumberWords : List String := [".nan", "nan"]

/-- The value of a number that is no whole number of 64 bits. -/
def float? (cs : List Char) : Option ConfigValue :=
  let unsigned := Digits.dropSign cs
  let word := String.ofList (unsigned.map Char.toLower)
  let isDecimal := isDecimal unsigned
  if isDecimal && (Decimal.ofUnsigned unsigned).isFinite then some .other
  else if isDecimal || word ∈ infinityWords then
    some (.text (if cs.head? = some '-' then "-.inf" else ".inf"))
  else if word ∈ noNumberWords then some (.text ".nan")
  else none

/-- The value of a plain text, unless it is just a text. -/
def value? (text : String) : Option ConfigValue :=
  let cs := Text.strip Text.isBlank text.toList
  if cs.map Char.toLower ∈ [['t', 'r', 'u', 'e'], ['f', 'a', 'l', 's', 'e']] then some .other
  else ((integer? cs).map .integer).or (float? cs)

end Word

/-! ## Scalars -/

/-- What a tag says of a scalar. -/
inductive TagMeaning where
  /-- There is nothing. -/
  | nothing
  /-- Its text stands for bytes. -/
  | bytes
  /-- It is something that is no text. -/
  | noText
  | any
deriving DecidableEq, Repr

namespace TagMeaning

/-- The tags of what is no text. -/
def noTexts : List String := ["int", "float", "bool", "seq", "map", "timestamp"]

/-- What a tag in its long form says. -/
def ofTag (tag : String) : TagMeaning :=
  if tag = Shortcuts.standard ++ "null" then .nothing
  else if tag = Shortcuts.standard ++ "binary" then .bytes
  else if noTexts.any fun name => tag = Shortcuts.standard ++ name then .noText
  else .any

end TagMeaning

namespace Scalar

/-- What the tag of a scalar says. -/
def meaning (s : Scalar) : TagMeaning := .ofTag s.tag

/-- The text of a scalar, if its tag allows one. -/
def text? (s : Scalar) : Option String :=
  match s.meaning with
  | .any => some s.text
  | .bytes => (Base64.decode? (s.text.toList.filter (!·.isWhitespace))).bind Utf8.decode?
  | .nothing | .noText => none

/-- The value of a scalar. -/
def value? (s : Scalar) : Option ConfigValue :=
  if s.meaning = .nothing then some .nothing
  else
    let word := if s.isPlain then Word.value? s.text else none
    word.or (s.text?.map .text)

/-- Whether a scalar is the key under which other tables are merged. -/
def isMergeKey (s : Scalar) : Bool := s.isPlain && s.tag = "" && s.text = "<<"

/-- Whether a scalar stands for nothing where a table is expected. -/
def isVoid (s : Scalar) : Bool :=
  s.isPlain && (s.text = "" || s.text = "~" || s.text.toList.map Char.toLower = ['n', 'u', 'l', 'l'])

end Scalar

/-! ## Lists and tables -/

namespace Node

/-- Whether a node is the key under which other tables are merged. -/
def isMergeKey : Node → Bool
  | .scalar s => s.isMergeKey
  | _ => false

/-- The text of a node and its tag, if it can be a key. -/
def key? : Node → Option (String × String)
  | .scalar s => s.text?.map fun text => (text, s.tag)
  | _ => none

mutual

/-- The entries that a node contributes where it is merged: those of a table, or of
all tables in a list; those that go before others come first. -/
def mergeEntries? : Node → Option (List (Node × Node))
  | .scalar s => if s.isVoid then some [] else none
  | .list items => mergeItems? items
  | .table entries => (divide? entries).map fun parts => parts.1 ++ parts.2

/-- The entries that items contribute; later items go before earlier ones. -/
def mergeItems? : List Node → Option (List (Node × Node))
  | [] => some []
  | item :: more => do
      let here ← mergeEntries? item
      let there ← mergeItems? more
      return there ++ here

/-- The entries of a table itself, and those that are merged into it; what is merged
later goes first. -/
def divide? : List (Node × Node) → Option (List (Node × Node) × List (Node × Node))
  | [] => some ([], [])
  | (key, value) :: more => do
      let (own, merged) ← divide? more
      if key.isMergeKey then
        let here ← mergeEntries? value
        return (own, merged ++ here)
      else return ((key, value) :: own, merged)

end

/-- Leaves out entries whose keys are there already. -/
def dropSeen : List (String × String) → List (Node × Node) → List (Node × Node)
  | _, [] => []
  | seen, (key, value) :: more =>
      match key.key? with
      | some k =>
          if seen.contains k then dropSeen seen more
          else (key, value) :: dropSeen (k :: seen) more
      | none => (key, value) :: dropSeen seen more

/-- The keys and values of a table; `value?` tells the value of a node. -/
def ofEntries? (value? : Node → Option ConfigValue) (entries : List (Node × Node)) :
    Option (List (String × ConfigValue)) := do
  let (own, merged) ← divide? entries
  let keys ← own.mapM fun entry => entry.1.key?
  if keys.Nodup then
    (own ++ dropSeen keys merged).mapM fun (key, node) => do
      let (name, _) ← key.key?
      return (name, ← value? node)
  else none

/-- The value of a node in which lists and tables are nested at most `depth` deep. -/
def valueWithin? : Nat → Node → Option ConfigValue
  | _, .scalar s => s.value?
  | 0, _ => none
  | depth + 1, .list items =>
      if items.all fun item => (valueWithin? depth item).isSome then some .other else none
  | depth + 1, .table entries => (ofEntries? (valueWithin? depth) entries).map fun _ => .other

/-- The value of a node. -/
def value? (node : Node) : Option ConfigValue := valueWithin? node.depth node

/-- The keys of a table and their values. -/
def entries? : Node → Option (List (String × ConfigValue))
  | .table entries => ofEntries? value? entries
  | _ => none

end Node

end SnapshotEngine.Yaml
