import SnapshotEngine.Config.Value
import SnapshotEngine.Table
import SnapshotEngine.Text.Digits

/-!
# Configuration from the command line

Every field has a flag, its key with hyphens, and a letter: the first of its
key, as a capital where another field has it already.  A flag is followed by its
value, or joined to it by an equals sign; a value that stands by itself does not
begin with a hyphen, other than the hyphen alone.  No flag may occur twice, and
there is nothing but flags.
-/

namespace SnapshotEngine.Arguments

/-- The flag of a field. -/
def flag (field : ConfigField) : List Char :=
  field.key.toList.map fun c => if c = '_' then '-' else c

/-- The letter of a field. -/
def letter : ConfigField → Char
  | .managementNamespace => 'n'
  | .controlPlaneUrl => 'c'
  | .serverAddr => 's'
  | .requestTimeout => 'r'
  | .pollInterval => 'p'
  | .operationTimeout => 'o'
  | .confirmGrace => 'C'
  | .moverProgram => 't'
  | .objectDirectory => 'O'

/-- Whether a field is a time. -/
def isTime : ConfigField → Bool
  | .requestTimeout | .pollInterval | .operationTimeout | .confirmGrace => true
  | _ => false

/-- The time that a text names: digits, perhaps after a plus sign, of at most 64
bits. -/
def seconds? (cs : List Char) : Option Nat :=
  let digits :=
    match cs with
    | '+' :: rest => rest
    | _ => cs
  if digits.isEmpty || !digits.all Char.isDigit then none
  else
    let n := Digits.value digits
    if n ≤ maxSeconds then some n else none

/-- The value that a field gets from a text. -/
def value? (field : ConfigField) (cs : List Char) : Option ConfigValue :=
  if isTime field then (seconds? cs).map fun n => .integer n
  else some (.text (String.ofList cs))

/-- The field that an argument names, and the value that is joined to it. -/
def flag? : List Char → Option (ConfigField × Option (List Char))
  | '-' :: '-' :: rest =>
      let name := rest.takeWhile (· ≠ '=')
      let joined :=
        match rest.dropWhile (· ≠ '=') with
        | _ :: value => some value
        | [] => none
      (ConfigField.all.find? fun field => flag field == name).map fun field => (field, joined)
  | '-' :: c :: rest =>
      let joined :=
        match rest with
        | [] => none
        | '=' :: value => some value
        | value => some value
      (ConfigField.all.find? fun field => letter field == c).map fun field => (field, joined)
  | _ => none

/-- Whether a text may stand by itself as a value. -/
def standsAlone : List Char → Bool
  | '-' :: _ :: _ => false
  | _ => true

/-- The values that arguments set, in their order. -/
def read : List (List Char) → Option (List (ConfigField × ConfigValue))
  | [] => some []
  | [['-', '-']] => some []
  | argument :: rest =>
      match flag? argument with
      | none => none
      | some (field, some joined) => do
          let value ← value? field joined
          let more ← read rest
          return (field, value) :: more
      | some (field, none) =>
          match rest with
          | next :: rest =>
              if standsAlone next then do
                let value ← value? field next
                let more ← read rest
                return (field, value) :: more
              else none
          | [] => none

/-- The values that arguments set, by key; nothing if they cannot be read. -/
def values? (arguments : List String) : Option (Table String ConfigValue) := do
  let found ← read (arguments.map String.toList)
  if (found.map (·.1)).Nodup then
    return Table.ofList (found.map fun entry => (entry.1.key, entry.2))
  else none

end SnapshotEngine.Arguments
