import SnapshotEngine.Text.Digits

/-!
# Decimal numbers and the range of floating-point numbers

A number with a fraction or an exponent stands for the floating-point number
next to it, which has 53 bits of its own and a power of two.  From a bound on
there is none: halfway between the largest floating-point number and the next
power of two.
-/

namespace SnapshotEngine

/-- A number written in decimal digits: `coefficient` times that power of ten. -/
structure Decimal where
  coefficient : Nat
  exponent : Int
deriving DecidableEq, Repr, Inhabited

namespace Decimal

/-- The number of bits of a floating-point number. -/
def precision : Nat := 53

/-- The floating-point number next to a natural number; of two that are equally
near the one counts whose last bit is zero. -/
def nearest (n : Nat) : Nat :=
  let shift := n.log2 + 1 - precision
  if shift = 0 then n
  else
    let kept := n / Nat.pow 2 shift
    let dropped := n % Nat.pow 2 shift
    let half := Nat.pow 2 (shift - 1)
    let isUp := half < dropped || (half = dropped && kept % 2 = 1)
    (if isUp then kept + 1 else kept) * Nat.pow 2 shift

/-- Where the numbers begin that are too large to be floating-point numbers. -/
def bound : Nat := Nat.pow 2 1024 - Nat.pow 2 970

/-- Whether a number is near enough to a floating-point number to be one. -/
def isFinite (d : Decimal) : Bool :=
  if d.coefficient = 0 then true
  else
    let magnitude : Int := (Nat.toDigits 10 d.coefficient).length + d.exponent
    if magnitude < 300 then true
    else if 320 < magnitude then false
    else
      match d.exponent with
      | .ofNat e => d.coefficient * Nat.pow 10 e < bound
      | .negSucc e => d.coefficient < bound * Nat.pow 10 (e + 1)

/-- The number that a text without a sign is: digits, perhaps a full stop and
further digits, perhaps an exponent. -/
def ofUnsigned (cs : List Char) : Decimal :=
  let isMark (c : Char) : Bool := c = 'e' || c = 'E'
  let mantissa := cs.takeWhile (!isMark ·)
  let whole := mantissa.takeWhile (· ≠ '.')
  let fraction := (mantissa.dropWhile (· ≠ '.')).drop 1
  let exponent : Int :=
    match (cs.dropWhile (!isMark ·)).drop 1 with
    | '-' :: digits => -(Digits.value digits : Int)
    | digits => Digits.value (Digits.dropSign digits)
  ⟨Digits.value (whole ++ fraction), exponent - fraction.length⟩

end Decimal

end SnapshotEngine
