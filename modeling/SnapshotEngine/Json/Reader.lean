import SnapshotEngine.Json.Value

/-!
# Reading JSON

The reader takes a byte sequence that holds one value, with white space around
it and between its parts, and refuses everything else.  Strings are checked for
their form only: no control character, every backslash starts an escape, four
digits after `\u`.  Whether a string is readable text is asked of the value.

Values may be nested to any depth: every value takes at least one byte, so the
number of bytes bounds the depth.
-/

namespace SnapshotEngine.Json

/-- White space between the parts of a JSON text. -/
def isSpace (b : UInt8) : Bool :=
  b == 0x20 || b == 0x0A || b == 0x0D || b == 0x09

/-- Drops the white space at the beginning. -/
def skipSpace (bs : Bytes) : Bytes := bs.dropWhile isSpace

/-- Whether a byte is a hexadecimal digit. -/
def isHexDigit (b : UInt8) : Bool :=
  (Hex.value? (Char.ofNat b.toNat)).isSome

/-- Whether a byte is a decimal digit. -/
def isDigit (b : UInt8) : Bool := (digit? b).isSome

/-- The bytes that may follow a backslash, the `u` apart. -/
def isSimpleEscape (b : UInt8) : Bool :=
  (simpleEscape? (Char.ofNat b.toNat)).isSome

/-- Splits the body of a string off a text that starts behind its opening
quote. -/
def readBody : Bytes → Option (Bytes × Bytes)
  | [] => none
  | 0x22 :: rest => some ([], rest)
  | 0x5C :: 0x75 :: a :: b :: c :: d :: rest =>
      if isHexDigit a && isHexDigit b && isHexDigit c && isHexDigit d then
        (readBody rest).map fun r => (0x5C :: 0x75 :: a :: b :: c :: d :: r.1, r.2)
      else none
  | 0x5C :: b :: rest =>
      if isSimpleEscape b then (readBody rest).map fun r => (0x5C :: b :: r.1, r.2)
      else none
  | b :: rest =>
      if b == 0x5C || b.toNat < 0x20 then none
      else (readBody rest).map fun r => (b :: r.1, r.2)

/-- Splits the longest run of decimal digits off. -/
def spanDigits (bs : Bytes) : Bytes × Bytes :=
  (bs.takeWhile isDigit, bs.dropWhile isDigit)

/-- Splits the whole part of a number off: a zero, or digits that do not start
with one. -/
def readWhole (bs : Bytes) : Option (Bytes × Bytes) :=
  match bs with
  | 0x30 :: rest => some ([0x30], rest)
  | _ =>
      match spanDigits bs with
      | ([], _) => none
      | parts => some parts

/-- Splits an optional fraction off. -/
def readFraction (bs : Bytes) : Option (Bytes × Bytes) :=
  match bs with
  | 0x2E :: rest =>
      match spanDigits rest with
      | ([], _) => none
      | (digits, after) => some (0x2E :: digits, after)
  | _ => some ([], bs)

/-- Splits an optional exponent off. -/
def readExponent (bs : Bytes) : Option (Bytes × Bytes) :=
  match bs with
  | mark :: rest =>
      if mark == 0x65 || mark == 0x45 then
        let (sign, digitsOn) :=
          match rest with
          | b :: after => if b == 0x2B || b == 0x2D then ([b], after) else ([], rest)
          | [] => ([], [])
        match spanDigits digitsOn with
        | ([], _) => none
        | (digits, after) => some (mark :: sign ++ digits, after)
      else some ([], bs)
  | [] => some ([], [])

/-- Splits a number without its sign off. -/
def readUnsigned (bs : Bytes) : Option (Bytes × Bytes) := do
  let (whole, bs) ← readWhole bs
  let (fraction, bs) ← readFraction bs
  let (exponent, bs) ← readExponent bs
  return (whole ++ fraction ++ exponent, bs)

/-- Splits a number off. -/
def readNumber (bs : Bytes) : Option (Bytes × Bytes) :=
  match bs with
  | 0x2D :: rest => (readUnsigned rest).map fun r => (0x2D :: r.1, r.2)
  | _ => readUnsigned bs

mutual

/-- Splits a value off, nested at most `fuel` deep. -/
def readValue : Nat → Bytes → Option (Json × Bytes)
  | 0, _ => none
  | fuel + 1, bs =>
      match skipSpace bs with
      | 0x6E :: 0x75 :: 0x6C :: 0x6C :: rest => some (.null, rest)
      | 0x74 :: 0x72 :: 0x75 :: 0x65 :: rest => some (.bool true, rest)
      | 0x66 :: 0x61 :: 0x6C :: 0x73 :: 0x65 :: rest => some (.bool false, rest)
      | 0x22 :: rest => (readBody rest).map fun r => (.string r.1, r.2)
      | 0x5B :: rest =>
          match skipSpace rest with
          | 0x5D :: after => some (.array [], after)
          | _ => (readItems fuel rest).map fun r => (.array r.1, r.2)
      | 0x7B :: rest =>
          match skipSpace rest with
          | 0x7D :: after => some (.object [], after)
          | _ => (readFields fuel rest).map fun r => (.object r.1, r.2)
      | start => (readNumber start).map fun r => (.number r.1, r.2)

/-- Splits the items of an array off, up to the bracket that ends it. -/
def readItems : Nat → Bytes → Option (List Json × Bytes)
  | 0, _ => none
  | fuel + 1, bs =>
      match readValue fuel bs with
      | none => none
      | some (item, rest) =>
          match skipSpace rest with
          | 0x2C :: more => (readItems fuel more).map fun r => (item :: r.1, r.2)
          | 0x5D :: after => some ([item], after)
          | _ => none

/-- Splits the fields of an object off, up to the brace that ends it. -/
def readFields : Nat → Bytes → Option (List (Bytes × Json) × Bytes)
  | 0, _ => none
  | fuel + 1, bs =>
      match skipSpace bs with
      | 0x22 :: keyOn =>
          match readBody keyOn with
          | none => none
          | some (key, afterKey) =>
              match skipSpace afterKey with
              | 0x3A :: valueOn =>
                  match readValue fuel valueOn with
                  | none => none
                  | some (value, rest) =>
                      match skipSpace rest with
                      | 0x2C :: more =>
                          (readFields fuel more).map fun r => ((key, value) :: r.1, r.2)
                      | 0x7D :: after => some ([(key, value)], after)
                      | _ => none
              | _ => none
      | _ => none

end

/-- The value that a text holds. -/
def parse (bs : Bytes) : Option Json :=
  match readValue (2 * bs.length + 1) bs with
  | some (value, rest) => if (skipSpace rest).isEmpty then some value else none
  | none => none

end SnapshotEngine.Json
