import SnapshotEngine.Config.Value
import SnapshotEngine.Json.Value

/-!
# Configurations as JSON

A configuration is an object with a field for each of its nine, or an array of
the nine values in their order.  The two optional fields may be null, and in an
object they may be left out; fields of other names mean nothing.  Times are
numbers without sign, fraction and exponent, of at most 64 bits.
-/

namespace SnapshotEngine

/-- The value that a field gets from JSON. -/
def ConfigValue.ofJson (j : Json) : ConfigValue :=
  match j with
  | .null => .nothing
  | .number _ => (j.natural?).elim .other fun n => .integer n
  | .string body => (Json.bodyText? body).elim .other .text
  | _ => .other

namespace Config

/-- The configuration that a JSON value stands for. -/
def ofJson? (j : Json) : Option Config :=
  match j with
  | .object _ => ofValues? fun field => (j.field? field.key).map .ofJson
  | .array items =>
      if items.length = ConfigField.all.length then
        ofValues? fun field => (items[ConfigField.all.idxOf field]?).map .ofJson
      else none
  | _ => none

/-- The JSON value of a field. -/
def fieldJson (c : Config) (field : ConfigField) : Json :=
  match c.toValue field with
  | .nothing | .other => .null
  | .integer n => .ofNatural n.toNat
  | .text s => .ofText s

/-- The JSON object of a configuration. -/
def toJson (c : Config) : Json :=
  .ofFields (ConfigField.all.map fun field => (field.key, c.fieldJson field))

end Config

end SnapshotEngine
