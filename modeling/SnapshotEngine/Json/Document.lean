import SnapshotEngine.Json.Reader
import SnapshotEngine.Text.Decimal

/-!
# JSON documents

A text may hold a value that is well formed and still be of no use as a
document: a string in it may not be readable text, a number may be larger than
any floating-point number, or the value may be nested too deep.
-/

namespace SnapshotEngine.Json

/-- How deep arrays and objects may be nested in a document. -/
def maxDepth : Nat := 127

/-- Takes digits to a number of 64 bits as long as it has room for them: the
number, and how many digits are left over. -/
def significand (n : Nat) : Bytes → Nat × Nat
  | [] => (n, 0)
  | digit :: rest =>
      let more := n * 10 + (digit.toNat - 0x30)
      if more < Nat.pow 2 64 then significand more rest else (n, rest.length + 1)

/-- The exponent of a number behind its mark. -/
def exponentOf : Bytes → Int
  | 0x2D :: rest => -((digitsValue? rest).getD 0 : Nat)
  | 0x2B :: rest => ((digitsValue? rest).getD 0 : Nat)
  | rest => ((digitsValue? rest).getD 0 : Nat)

/-- The digits of a number that count, and the power of ten that they are to be
multiplied with.  Digits left over in front of the point only scale the number,
those behind it mean nothing. -/
def scientific (digits : Bytes) : Decimal :=
  let unsigned := digits.dropWhile (· == 0x2D)
  let written := unsigned.dropWhile fun b => isDigit b || b == 0x2E
  let (whole, scale) := significand 0 (unsigned.takeWhile isDigit)
  let fraction :=
    match unsigned.dropWhile isDigit with
    | 0x2E :: rest => rest.takeWhile isDigit
    | _ => []
  let (value, ignored) := significand whole fraction
  ⟨value, exponentOf (written.drop 1) + scale - (fraction.length - ignored : Nat)⟩

/-- Whether a number is near enough to a floating-point number.  The digits, the
power of ten and their product are each rounded on their own. -/
def isFinite (digits : Bytes) : Bool :=
  let number := scientific digits
  match number.exponent with
  | .negSucc _ => true
  | .ofNat e =>
      let power := Decimal.nearest (Nat.pow 10 e)
      number.coefficient = 0 || (e ≤ 308 &&
        Decimal.nearest (Decimal.nearest number.coefficient * power) < Nat.pow 2 1024)

/-- Whether a string is readable text. -/
def isReadable (body : Bytes) : Bool := (bodyText? body).isSome

mutual

/-- Whether a value can stand in a document, nested at most `depth` deep. -/
def fits : Nat → Json → Bool
  | _, .null | _, .bool _ => true
  | _, .number digits => isFinite digits
  | _, .string body => isReadable body
  | depth, .array items => 0 < depth && itemsFit (depth - 1) items
  | depth, .object fields => 0 < depth && fieldsFit (depth - 1) fields

/-- Whether all items can stand in a document. -/
def itemsFit : Nat → List Json → Bool
  | _, [] => true
  | depth, item :: more => fits depth item && itemsFit depth more

/-- Whether all fields can stand in a document. -/
def fieldsFit : Nat → List (Bytes × Json) → Bool
  | _, [] => true
  | depth, (key, value) :: more =>
      isReadable key && fits depth value && fieldsFit depth more

end

/-- Whether a text holds a document. -/
def isDocument (bs : Bytes) : Bool :=
  match parse bs with
  | some value => fits maxDepth value
  | none => false

end SnapshotEngine.Json
