import SnapshotEngine.Config.Value
import SnapshotEngine.Table
import SnapshotEngine.Text.Decimal
import SnapshotEngine.Text.Letter

/-!
# Configuration files in JSON

A file holds one object, whose fields are the keys.  It may be written more
freely than JSON proper: with comments, a comma behind the last item, texts in
either kind of quotes, keys without quotes, and numbers with a plus sign, a
decimal point at either end, or in hexadecimal digits.

A number without a decimal point and an exponent is a whole number of 64 bits,
one in hexadecimal digits has no sign and 32 bits, and any other one is a
floating-point number; a larger number makes the file unreadable.  Of two fields
with one key the later one counts.
-/

namespace SnapshotEngine.Json5

/-- The characters that end a line. -/
def isLineEnd (c : Char) : Bool :=
  let n := c.toNat
  n == 0xA || n == 0xD || n == 0x2028 || n == 0x2029

/-- White space between the parts of a file. -/
def isSpace (c : Char) : Bool :=
  let n := c.toNat
  isLineEnd c || n == 0x9 || n == 0xB || n == 0xC || n == 0x20 || n == 0xA0 || n == 0xFEFF
    || n == 0x1680 || (0x2000 ≤ n && n ≤ 0x200A) || n == 0x202F || n == 0x205F || n == 0x3000

/-- Drops a comment behind its opening, up to the mark that ends it. -/
def skipBlock : List Char → Option (List Char)
  | [] => none
  | '*' :: '/' :: rest => some rest
  | _ :: rest => skipBlock rest

/-- Drops white space and comments. -/
def skipSpace : Nat → List Char → Option (List Char)
  | 0, _ => none
  | fuel + 1, cs =>
      match cs.dropWhile isSpace with
      | '/' :: '/' :: rest => skipSpace fuel (rest.dropWhile (!isLineEnd ·))
      | '/' :: '*' :: rest =>
          match skipBlock rest with
          | some after => skipSpace fuel after
          | none => none
      | after => some after

/-- Drops white space and comments; nothing is left of a comment without end. -/
def skip (cs : List Char) : List Char := (skipSpace (cs.length + 1) cs).getD []

/-- The character that a pair of escapes stands for: the second half of its code,
with the bits of the first half and of 65536 set. -/
def pair (high low : Nat) : Char :=
  Char.ofNat ((high - 0xD800) * 0x400 ||| (low - 0xDC00) ||| 0x10000)

/-- The character that the digits behind `\u` name; some take two such escapes. -/
def unicode? (cs : List Char) : Option (Char × List Char) := do
  let (high, rest) ← Hex.take? 4 cs
  if high.isValidChar then return (Char.ofNat high, rest)
  else if high < 0xDC00 then
    match rest with
    | '\\' :: 'u' :: more => do
        let (low, after) ← Hex.take? 4 more
        if 0xDC00 ≤ low ∧ low < 0xE000 then
          return (pair high low, after)
        else none
    | _ => none
  else none

/-- What an escape stands for, and the rest; a line end stands for nothing. -/
def escape? : List Char → Option (List Char × List Char)
  | [] => none
  | 'b' :: rest => some (['\x08'], rest)
  | 'f' :: rest => some (['\x0c'], rest)
  | 'n' :: rest => some (['\n'], rest)
  | 'r' :: rest => some (['\r'], rest)
  | 't' :: rest => some (['\t'], rest)
  | 'v' :: rest => some (['\x0b'], rest)
  | '0' :: rest => some (['\x00'], rest)
  | 'x' :: rest => (Hex.take? 2 rest).map fun r => ([Char.ofNat r.1], r.2)
  | 'u' :: rest => (unicode? rest).map fun r => ([r.1], r.2)
  | '\r' :: '\n' :: rest => some ([], rest)
  | c :: rest =>
      if isLineEnd c then some ([], rest)
      else if c.isDigit then none
      else some ([c], rest)

/-- Reads a text up to the quote that ends it. -/
def readText (quote : Char) : Nat → List Char → Option (List Char × List Char)
  | 0, _ => none
  | _ + 1, [] => none
  | fuel + 1, '\\' :: rest =>
      match escape? rest with
      | some (cs, after) => (readText quote fuel after).map fun r => (cs ++ r.1, r.2)
      | none => none
  | fuel + 1, c :: rest =>
      if c = quote then some ([], rest)
      else if isLineEnd c then none
      else (readText quote fuel rest).map fun r => (c :: r.1, r.2)

/-- Whether a character may begin a key without quotes. -/
def isKeyStart (c : Char) : Bool := Text.isLetter c || c = '$' || c = '_'

/-- Whether a character may stand in a key without quotes, behind its beginning. -/
def isKeyChar (c : Char) : Bool :=
  isKeyStart c || Text.isTail c || c.toNat == 0x200C || c.toNat == 0x200D

/-- Reads a key without quotes behind its beginning; any character may be written
as an escape. -/
def readName : Nat → List Char → Option (List Char × List Char)
  | 0, _ => none
  | fuel + 1, '\\' :: 'u' :: rest =>
      match unicode? rest with
      | some (c, after) => (readName fuel after).map fun r => (c :: r.1, r.2)
      | none => none
  | _ + 1, [] => some ([], [])
  | fuel + 1, c :: rest =>
      if isKeyChar c then (readName fuel rest).map fun r => (c :: r.1, r.2)
      else some ([], c :: rest)

/-- Reads a key. -/
def readKey? (cs : List Char) : Option (String × List Char) :=
  let named : Option (List Char × List Char) :=
    match cs with
    | '"' :: rest => readText '"' cs.length rest
    | '\'' :: rest => readText '\'' cs.length rest
    | '\\' :: _ => readName cs.length cs
    | c :: _ => if isKeyStart c then readName (cs.length + 1) cs else none
    | [] => none
  named.map fun r => (String.ofList r.1, r.2)

/-- Drops an exponent off the beginning; nothing if there is none. -/
def exponent? : List Char → Option (List Char)
  | [] => none
  | c :: rest =>
      if c = 'e' || c = 'E' then
        let digits := Digits.dropSign rest
        if (digits.takeWhile Char.isDigit).isEmpty then none
        else some (digits.dropWhile Char.isDigit)
      else none

/-- What a floating-point number is read as, with the rest behind it; nothing if the
number is too large. -/
def finite? (cs rest : List Char) : Option (ConfigValue × List Char) :=
  if (Decimal.ofUnsigned (cs.take (cs.length - rest.length))).isFinite then some (.other, rest)
  else none

/-- Reads a decimal number without its sign. -/
def readDecimal (isNegative : Bool) (cs : List Char) : Option (ConfigValue × List Char) :=
  let whole := match cs with
    | '0' :: _ => ['0']
    | _ => cs.takeWhile Char.isDigit
  let rest := cs.drop whole.length
  match rest with
  | '.' :: more =>
      let after := more.dropWhile Char.isDigit
      if whole.isEmpty && (more.takeWhile Char.isDigit).isEmpty then none
      else finite? cs ((exponent? after).getD after)
  | _ =>
      if whole.isEmpty then none
      else
        match exponent? rest with
        | some after => finite? cs after
        | none =>
            let n : Int := if isNegative then -(Digits.value whole : Int) else Digits.value whole
            if -(Nat.pow 2 63) ≤ n ∧ n < Nat.pow 2 63 then some (.integer n, rest) else none

/-- Reads a number without its sign; `hasPlus` and `isNegative` tell which one there
was.  Infinity and what is no number have no plus sign. -/
def readUnsigned (hasPlus isNegative : Bool) (cs : List Char) :
    Option (ConfigValue × List Char) :=
  match cs with
  | 'I' :: 'n' :: 'f' :: 'i' :: 'n' :: 'i' :: 't' :: 'y' :: rest =>
      if hasPlus then none else some (.other, rest)
  | 'N' :: 'a' :: 'N' :: rest => if hasPlus then none else some (.other, rest)
  | '0' :: 'x' :: rest | '0' :: 'X' :: rest =>
      let isHexDigit (c : Char) : Bool := (Hex.value? c).isSome
      let digits := rest.takeWhile isHexDigit
      if digits.isEmpty || hasPlus || isNegative then none
      else
        match Hex.number? digits with
        | some n => if n < Nat.pow 2 32 then some (.integer n, rest.dropWhile isHexDigit) else none
        | none => none
  | _ => readDecimal isNegative cs

/-- Reads a number. -/
def readNumber : List Char → Option (ConfigValue × List Char)
  | '+' :: rest => readUnsigned true false rest
  | '-' :: rest => readUnsigned false true rest
  | cs => readUnsigned false false cs

mutual

/-- Reads a value that begins at once. -/
def readValue : Nat → List Char → Option (ConfigValue × List Char)
  | 0, _ => none
  | fuel + 1, cs =>
      match cs with
      | 'n' :: 'u' :: 'l' :: 'l' :: rest => some (.nothing, rest)
      | 't' :: 'r' :: 'u' :: 'e' :: rest => some (.other, rest)
      | 'f' :: 'a' :: 'l' :: 's' :: 'e' :: rest => some (.other, rest)
      | '"' :: rest =>
          (readText '"' (rest.length + 1) rest).map fun r => (.text (String.ofList r.1), r.2)
      | '\'' :: rest =>
          (readText '\'' (rest.length + 1) rest).map fun r => (.text (String.ofList r.1), r.2)
      | '[' :: rest =>
          match skip rest with
          | ']' :: after => some (.other, after)
          | start => (readItems fuel start).map fun rest => (.other, rest)
      | '\x7b' :: rest => (readObject fuel rest).map fun r => (.other, r.2)
      | _ => readNumber cs

/-- Reads the items of a list up to the bracket that ends it. -/
def readItems : Nat → List Char → Option (List Char)
  | 0, _ => none
  | fuel + 1, cs =>
      match readValue fuel cs with
      | none => none
      | some (_, rest) =>
          match skip rest with
          | ']' :: after => some after
          | ',' :: more =>
              match skip more with
              | ']' :: after => some after
              | start => readItems fuel start
          | _ => none

/-- Reads an object behind the brace that opens it. -/
def readObject : Nat → List Char → Option (List (String × ConfigValue) × List Char)
  | 0, _ => none
  | fuel + 1, cs =>
      match skip cs with
      | '\x7d' :: after => some ([], after)
      | start => readFields fuel start

/-- Reads the fields of an object up to the brace that ends it. -/
def readFields : Nat → List Char → Option (List (String × ConfigValue) × List Char)
  | 0, _ => none
  | fuel + 1, cs =>
      match readKey? cs with
      | none => none
      | some (key, afterKey) =>
          match skip afterKey with
          | ':' :: valueOn =>
              match readValue fuel (skip valueOn) with
              | none => none
              | some (value, rest) =>
                  match skip rest with
                  | '\x7d' :: after => some ([(key, value)], after)
                  | ',' :: more =>
                      match skip more with
                      | '\x7d' :: after => some ([(key, value)], after)
                      | start => (readFields fuel start).map fun r => ((key, value) :: r.1, r.2)
                  | _ => none
          | _ => none

end

/-- The values of the keys of a file; nothing if it cannot be read. -/
def values? (text : String) : Option (Table String ConfigValue) :=
  let cs := text.toList
  match skip cs with
  | '\x7b' :: rest =>
      match readObject (2 * cs.length + 2) rest with
      | some (fields, after) =>
          if skipSpace (after.length + 1) after = some [] then some (Table.ofList fields) else none
      | none => none
  | _ => none

end SnapshotEngine.Json5
