import SnapshotEngine.Json.Escape

/-!
# JSON values

A JSON value keeps what its text says and interprets it on demand: a number is
its digits, a string the bytes between its quotes.  So a value whose strings
are not all readable text is still a value, and only the strings that are
looked at have to be readable.
-/

namespace SnapshotEngine

/-- A JSON value. -/
inductive Json where
  | null
  | bool (b : Bool)
  /-- The digits, sign, fraction and exponent of a number as written. -/
  | number (digits : Bytes)
  /-- The bytes between the quotes of a string. -/
  | string (body : Bytes)
  | array (items : List Json)
  /-- The fields in the order written, each with the body of its key. -/
  | object (fields : List (Bytes × Json))
deriving Inhabited

namespace Json

/-- The text that the body of a string stands for, if the body is UTF-8 and its
escapes are well formed. -/
def bodyText? (body : Bytes) : Option String := do
  let written ← Utf8.decode? body
  let text ← unescape? written.toList
  return String.ofList text

/-- The body of the string that holds a text. -/
def textBody (s : String) : Bytes :=
  Utf8.encode (String.ofList (escape s.toList))

/-- The string that holds a text. -/
def ofText (s : String) : Json := .string (textBody s)

/-- The text of a string. -/
def text? : Json → Option String
  | .string body => bodyText? body
  | _ => none

/-- The number with the given value. -/
def ofNatural (n : Nat) : Json :=
  .number ((Nat.toDigits 10 n).map fun c => UInt8.ofNat c.toNat)

/-- The value of a decimal digit. -/
def digit? (b : UInt8) : Option Nat :=
  if 0x30 ≤ b.toNat ∧ b.toNat ≤ 0x39 then some (b.toNat - 0x30) else none

/-- The value of a sequence of decimal digits. -/
def digitsValue? (digits : Bytes) : Option Nat :=
  digits.foldlM (fun n b => (digit? b).map (n * 10 + ·)) 0

/-- The value of a number without sign, fraction and exponent. -/
def natural? : Json → Option Nat
  | .number [] => none
  | .number digits => digitsValue? digits
  | _ => none

/-- The value of a number without fraction and exponent. -/
def integer? : Json → Option Int
  | .number (0x2D :: digits) => (natural? (.number digits)).map fun n => -(n : Int)
  | j => (natural? j).map fun n => (n : Int)

/-- The value of a truth value. -/
def bool? : Json → Option Bool
  | .bool b => some b
  | _ => none

/-- The items of an array. -/
def items? : Json → Option (List Json)
  | .array items => some items
  | _ => none

/-- The fields of an object. -/
def fields? : Json → Option (List (Bytes × Json))
  | .object fields => some fields
  | _ => none

/-- The object with the given fields. -/
def ofFields (fields : List (String × Json)) : Json :=
  .object (fields.map fun field => (textBody field.1, field.2))

/-- The last field of that name, if the value is an object that has one. -/
def field? (j : Json) (name : String) : Option Json :=
  match j with
  | .object fields =>
      (fields.reverse.find? fun field => bodyText? field.1 == some name).map (·.2)
  | _ => none

/-- A text is read back from the body of the string that holds it. -/
theorem bodyText?_textBody (s : String) : bodyText? (textBody s) = some s := by
  simp [bodyText?, textBody, Utf8.decode?_encode, unescape?_escape]

end Json

end SnapshotEngine
