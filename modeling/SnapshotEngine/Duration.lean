/-!
# Durations and their text

A duration is a whole number of nanoseconds.  Its text uses the largest of the
units s, ms, µs and ns of which there is at least one, and an exact decimal
fraction without trailing zeros: `1.5s`, `50ms`, `999.999µs`, `0ns`.
-/

namespace SnapshotEngine

/-- A length of time in nanoseconds. -/
structure Duration where
  nanos : Nat
deriving DecidableEq, Repr, Inhabited

namespace Duration

/-- Nanoseconds in a second. -/
def perSecond : Nat := 1000000000

/-- Nanoseconds in a millisecond. -/
def perMilli : Nat := 1000000

/-- Nanoseconds in a microsecond. -/
def perMicro : Nat := 1000

def ofSecs (n : Nat) : Duration := ⟨n * perSecond⟩

def ofMillis (n : Nat) : Duration := ⟨n * perMilli⟩

/-- The whole milliseconds of a duration. -/
def millis (d : Duration) : Nat := d.nanos / perMilli

/-- The digits of `n` with zeros in front up to `width` places. -/
def padded (width n : Nat) : List Char :=
  let digits := Nat.toDigits 10 n
  List.replicate (width - digits.length) '0' ++ digits

/-- The number `n` in units of `10 ^ places`, as an exact decimal without trailing
zeros. -/
def decimal (n places : Nat) : List Char :=
  let fraction := n % Nat.pow 10 places
  let shown := ((padded places fraction).reverse.dropWhile (· = '0')).reverse
  Nat.toDigits 10 (n / Nat.pow 10 places) ++ if fraction = 0 then [] else '.' :: shown

/-- The text of a duration. -/
def text (d : Duration) : String :=
  if perSecond ≤ d.nanos then String.ofList (decimal d.nanos 9) ++ "s"
  else if perMilli ≤ d.nanos then String.ofList (decimal d.nanos 6) ++ "ms"
  else if perMicro ≤ d.nanos then String.ofList (decimal d.nanos 3) ++ "µs"
  else String.ofList (decimal d.nanos 0) ++ "ns"

example : (⟨1500000000⟩ : Duration).text = "1.5s" := by decide
example : (ofMillis 50).text = "50ms" := by decide
example : (⟨999999⟩ : Duration).text = "999.999µs" := by decide
example : (⟨1000000001⟩ : Duration).text = "1.000000001s" := by decide
example : (⟨0⟩ : Duration).text = "0ns" := by decide

end Duration

end SnapshotEngine
