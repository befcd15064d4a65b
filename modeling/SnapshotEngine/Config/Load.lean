import SnapshotEngine.Config.Arguments
import SnapshotEngine.Config.Environment
import SnapshotEngine.Config.Json5
import SnapshotEngine.Config.Toml
import SnapshotEngine.Config.Yaml

/-!
# Loading a configuration

A configuration is put together from four layers: what holds by default, a file,
the environment and the command line.  The value of a field is that of the
strongest layer that has one.  Keys that name no field mean nothing, except that
a file must not build upon another.

A file or a command line that cannot be read is an error, even if the other
layers would do; so is a field without a value, or with one that it does not
take.
-/

namespace SnapshotEngine

/-- How a configuration file is written. -/
inductive FileFormat where
  | toml
  | yaml
  | json
deriving DecidableEq, Repr, Inhabited

namespace FileFormat

/-- The extension of a file name, in lower case. -/
def extension (name : String) : String :=
  match Text.cutLast '.' name.toList with
  | some (_ :: _, ext) => String.ofList (ext.map Char.toLower)
  | _ => ""

/-- The format of a file, by its name. -/
def ofName (name : String) : FileFormat :=
  let ext := extension name
  if ext = "yaml" ∨ ext = "yml" then .yaml
  else if ext = "json" ∨ ext = "json5" then .json
  else .toml

/-- The values of the keys of a text; nothing if it cannot be read. -/
def values? : FileFormat → String → Option (Table String ConfigValue)
  | .toml => Toml.values?
  | .yaml => Yaml.values?
  | .json => Json5.values?

end FileFormat

/-- A configuration file. -/
structure ConfigFile where
  name : String
  text : String
deriving DecidableEq, Repr, Inhabited

namespace ConfigFile

/-- The key by which a file builds upon another. -/
def baseKey : String := "extends"

/-- The values of the keys of a file; nothing if it cannot be read or builds upon
another. -/
def values? (file : ConfigFile) : Option (Table String ConfigValue) :=
  ((FileFormat.ofName file.name).values? file.text).filter fun t => !t.contains baseKey

end ConfigFile

/-- Where a configuration comes from. -/
structure ConfigSources where
  /-- The file that was found, if there is one. -/
  file : Option ConfigFile
  /-- The variables of the environment. -/
  environment : List (String × String)
  /-- The arguments of the command line. -/
  arguments : List String
deriving Repr, Inhabited

namespace Config

/-- The value that a field has by default. -/
def default? : ConfigField → Option ConfigValue
  | .managementNamespace => some (.text "openebs")
  | .controlPlaneUrl => none
  | .serverAddr => none
  | .requestTimeout => some (.integer 60)
  | .pollInterval => some (.integer 5)
  | .operationTimeout => some (.integer 3600)
  | .confirmGrace => some (.integer 30)
  | .moverProgram => some (.text "cstor-transfer")
  | .objectDirectory => none

end Config

/-- What the layers above the defaults hold. -/
structure ConfigLayers where
  file : Table String ConfigValue
  environment : Table String ConfigValue
  arguments : Table String ConfigValue
deriving Repr, Inhabited

namespace ConfigLayers

/-- The value of a field, from the strongest layer that has one. -/
def value? (layers : ConfigLayers) (field : ConfigField) : Option ConfigValue :=
  (layers.arguments.get? field.key).or <|
    (layers.environment.get? field.key).or <|
      (layers.file.get? field.key).or (Config.default? field)

end ConfigLayers

namespace ConfigSources

/-- The layer of the file; without a file there is nothing in it. -/
def fileLayer? (sources : ConfigSources) : Option (Table String ConfigValue) :=
  match sources.file with
  | some file => file.values?
  | none => some .empty

/-- The layers above the defaults; nothing if the file or the command line cannot
be read. -/
def layers? (sources : ConfigSources) : Option ConfigLayers := do
  let file ← sources.fileLayer?
  let arguments ← Arguments.values? sources.arguments
  return { file, environment := Environment.values sources.environment, arguments }

end ConfigSources

namespace Config

/-- Loads a configuration; nothing if that is not possible. -/
def load? (sources : ConfigSources) : Option Config := do
  let layers ← sources.layers?
  ofValues? layers.value?

end Config

end SnapshotEngine
