import SnapshotEngine.Config

/-!
# Values of configuration fields

Whatever a configuration is written in, a field of it gets a value: a text, a
whole number, nothing, or something that no field takes.  A field that takes a
text takes no number and the other way round, and only the two optional fields
may get nothing.

* `ofValues?_toValue` — a configuration is put together again from the values
  of its fields.
-/

namespace SnapshotEngine

/-- The value of a field, as far as a configuration tells values apart. -/
inductive ConfigValue where
  | nothing
  | integer (n : Int)
  | text (s : String)
  /-- A truth value, a number with a fraction, a list, a table, and the like. -/
  | other
deriving DecidableEq, Repr, Inhabited

/-- The largest time, in seconds. -/
def maxSeconds : Nat := Nat.pow 2 64 - 1

namespace ConfigValue

/-- The text that a field needs. -/
def text? : Option ConfigValue → Option String
  | some (.text s) => some s
  | _ => none

/-- The text that a field may have. -/
def optional? : Option ConfigValue → Option (Option String)
  | none | some .nothing => some none
  | some (.text s) => some (some s)
  | _ => none

/-- The time that a field needs. -/
def seconds? : Option ConfigValue → Option Nat
  | some (.integer (.ofNat n)) => if n ≤ maxSeconds then some n else none
  | _ => none

/-- The value of a text that may be left out. -/
def ofOptional : Option String → ConfigValue
  | some s => .text s
  | none => .nothing

end ConfigValue

namespace Config

/-- Puts a configuration together from the values of its fields. -/
def ofValues? (value? : ConfigField → Option ConfigValue) : Option Config := do
  return {
    managementNamespace := ← ConfigValue.text? (value? .managementNamespace)
    controlPlaneUrl := ← ConfigValue.optional? (value? .controlPlaneUrl)
    serverAddr := ← ConfigValue.text? (value? .serverAddr)
    requestTimeout := ← ConfigValue.seconds? (value? .requestTimeout)
    pollInterval := ← ConfigValue.seconds? (value? .pollInterval)
    operationTimeout := ← ConfigValue.seconds? (value? .operationTimeout)
    confirmGrace := ← ConfigValue.seconds? (value? .confirmGrace)
    moverProgram := ← ConfigValue.text? (value? .moverProgram)
    objectDirectory := ← ConfigValue.optional? (value? .objectDirectory) }

/-- The value of a field. -/
def toValue (c : Config) : ConfigField → ConfigValue
  | .managementNamespace => .text c.managementNamespace
  | .controlPlaneUrl => .ofOptional c.controlPlaneUrl
  | .serverAddr => .text c.serverAddr
  | .requestTimeout => .integer c.requestTimeout
  | .pollInterval => .integer c.pollInterval
  | .operationTimeout => .integer c.operationTimeout
  | .confirmGrace => .integer c.confirmGrace
  | .moverProgram => .text c.moverProgram
  | .objectDirectory => .ofOptional c.objectDirectory

theorem optional?_ofOptional (o : Option String) :
    ConfigValue.optional? (some (.ofOptional o)) = some o := by
  cases o <;> rfl

theorem seconds?_integer {n : Nat} (h : n ≤ maxSeconds) :
    ConfigValue.seconds? (some (.integer n)) = some n := by
  change (if n ≤ maxSeconds then some n else none) = some n
  exact if_pos h

/-- A configuration is put together again from the values of its fields. -/
theorem ofValues?_toValue {c : Config} (hrequest : c.requestTimeout ≤ maxSeconds)
    (hpoll : c.pollInterval ≤ maxSeconds) (hoperation : c.operationTimeout ≤ maxSeconds)
    (hgrace : c.confirmGrace ≤ maxSeconds) :
    ofValues? (fun field => some (c.toValue field)) = some c := by
  unfold ofValues? toValue
  simp only [optional?_ofOptional, seconds?_integer hrequest, seconds?_integer hpoll,
    seconds?_integer hoperation, seconds?_integer hgrace]
  rfl

end Config

end SnapshotEngine
