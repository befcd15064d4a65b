import SnapshotEngine.Json.Value

/-!
# Writing JSON

A value is written without any white space, its fields in their order.
-/

namespace SnapshotEngine.Json

/-- Joins the written parts of an array or object with commas. -/
def joinParts : List Bytes → Bytes
  | [] => []
  | [part] => part
  | part :: more => part ++ 0x2C :: joinParts more

mutual

/-- The text of a value. -/
def render : Json → Bytes
  | .null => [0x6E, 0x75, 0x6C, 0x6C]
  | .bool true => [0x74, 0x72, 0x75, 0x65]
  | .bool false => [0x66, 0x61, 0x6C, 0x73, 0x65]
  | .number digits => digits
  | .string body => 0x22 :: body ++ [0x22]
  | .array items => 0x5B :: joinParts (renderItems items) ++ [0x5D]
  | .object fields => 0x7B :: joinParts (renderFields fields) ++ [0x7D]

/-- The texts of the items of an array. -/
def renderItems : List Json → List Bytes
  | [] => []
  | item :: more => render item :: renderItems more

/-- The texts of the fields of an object. -/
def renderFields : List (Bytes × Json) → List Bytes
  | [] => []
  | (key, value) :: more => (0x22 :: key ++ 0x22 :: 0x3A :: render value) :: renderFields more

end

end SnapshotEngine.Json
