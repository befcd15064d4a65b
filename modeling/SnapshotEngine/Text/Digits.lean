import SnapshotEngine.Text.Hex

/-!
# Numbers written in digits

Numbers in configurations are written with or without a sign, in decimal digits
or in those of another base up to sixteen.
-/

namespace SnapshotEngine.Digits

/-- Drops an optional sign. -/
def dropSign : List Char → List Char
  | '+' :: rest | '-' :: rest => rest
  | cs => cs

/-- One more decimal digit. -/
def push (n : Nat) (c : Char) : Nat := n * 10 + (c.toNat - 0x30)

/-- The number that decimal digits stand for. -/
def value (cs : List Char) : Nat := cs.foldl push 0

/-- One more digit of a base. -/
def push? (base n : Nat) (c : Char) : Option Nat :=
  ((Hex.value? c).filter (· < base)).map (n * base + ·)

/-- The number that digits of a base stand for; nothing if one is no digit of
it. -/
def ofBase? (base : Nat) (cs : List Char) : Option Nat := cs.foldlM (push? base) 0

end SnapshotEngine.Digits
