import SnapshotEngine.Text.Utf8

/-!
# Bytes written in base 64

Every three bytes are written as four characters of sixty-four; at the end one or two
equals signs stand for what is missing to three bytes, and the bits that belong to no
byte are zero.
-/

namespace SnapshotEngine.Base64

/-- The number that a character stands for. -/
def value? (c : Char) : Option Nat :=
  let n := c.toNat
  if 0x41 ≤ n ∧ n ≤ 0x5A then some (n - 0x41)
  else if 0x61 ≤ n ∧ n ≤ 0x7A then some (n - 0x47)
  else if 0x30 ≤ n ∧ n ≤ 0x39 then some (n + 4)
  else if n = 0x2B then some 62
  else if n = 0x2F then some 63
  else none

/-- The byte that the lowest eight bits of a number make up. -/
def byte (n : Nat) : UInt8 := UInt8.ofNat n

/-- The bytes that are written in a text. -/
def decode? : List Char → Option Bytes
  | [] => some []
  | [a, b, '=', '='] => do
      let n := (← value? a) * 0x40 + (← value? b)
      if n % 0x10 = 0 then return [byte (n / 0x10)] else none
  | [a, b, c, '='] => do
      let n := ((← value? a) * 0x40 + (← value? b)) * 0x40 + (← value? c)
      if n % 4 = 0 then return [byte (n / 0x400), byte (n / 4)] else none
  | a :: b :: c :: d :: rest => do
      let n := (((← value? a) * 0x40 + (← value? b)) * 0x40 + (← value? c)) * 0x40 + (← value? d)
      let more ← decode? rest
      return byte (n / 0x10000) :: byte (n / 0x100) :: byte n :: more
  | _ => none

end SnapshotEngine.Base64
