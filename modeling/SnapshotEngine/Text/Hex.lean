/-!
# Hexadecimal digits

Escapes in JSON texts and in URLs name a code by hexadecimal digits.

* `value?_lowerDigit`, `value?_upperDigit` — a digit of either case is read
  back as its value.
-/

namespace SnapshotEngine.Hex

/-- The lower-case digit of a value below sixteen. -/
def lowerDigit (n : Nat) : Char :=
  if n < 10 then Char.ofNat (0x30 + n) else Char.ofNat (0x57 + n)

/-- The upper-case digit of a value below sixteen. -/
def upperDigit (n : Nat) : Char :=
  if n < 10 then Char.ofNat (0x30 + n) else Char.ofNat (0x37 + n)

/-- The value of a digit of either case. -/
def value? (c : Char) : Option Nat :=
  let n := c.toNat
  if 0x30 ≤ n ∧ n ≤ 0x39 then some (n - 0x30)
  else if 0x41 ≤ n ∧ n ≤ 0x46 then some (n - 0x37)
  else if 0x61 ≤ n ∧ n ≤ 0x66 then some (n - 0x57)
  else none

/-- The number that a sequence of digits names. -/
def number? (digits : List Char) : Option Nat :=
  digits.foldlM (fun n c => (value? c).map (n * 16 + ·)) 0

/-- The number that the first `count` characters name, and the rest. -/
def take? (count : Nat) (cs : List Char) : Option (Nat × List Char) :=
  let digits := cs.take count
  if digits.length = count then (number? digits).map fun n => (n, cs.drop count) else none

/-- The character whose code the first `count` characters name, and the rest. -/
def char? (count : Nat) (cs : List Char) : Option (Char × List Char) :=
  ((take? count cs).filter fun r => r.1.isValidChar).map fun r => (Char.ofNat r.1, r.2)

/-- A lower-case digit is read back as its value. -/
theorem value?_lowerDigit {n : Nat} (h : n < 16) : value? (lowerDigit n) = some n := by
  have hall : ∀ k : Fin 16, value? (lowerDigit k.val) = some k.val := by decide
  exact hall ⟨n, h⟩

/-- An upper-case digit is read back as its value. -/
theorem value?_upperDigit {n : Nat} (h : n < 16) : value? (upperDigit n) = some n := by
  have hall : ∀ k : Fin 16, value? (upperDigit k.val) = some k.val := by decide
  exact hall ⟨n, h⟩

end SnapshotEngine.Hex
