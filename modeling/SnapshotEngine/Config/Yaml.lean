import SnapshotEngine.Config.Yaml.Value

/-!
# Configuration files in YAML

A file holds one document, and the document one table, whose keys are those of
the configuration.  In front of it there may be a byte order mark.
-/

namespace SnapshotEngine.Yaml

/-- The document of a file. -/
def document? (text : String) : Option Node :=
  Node.ofTokens? (Token.ofText (Text.dropMark text.toList))

/-- The values of the keys of a file; nothing if it cannot be read. -/
def values? (text : String) : Option (Table String ConfigValue) :=
  ((document? text).bind Node.entries?).map Table.ofList

end SnapshotEngine.Yaml
