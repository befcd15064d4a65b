/-!
# The parts of a YAML text

A text is a sequence of tokens.  Some of them are written in it, such as the
brackets of a list; others only follow from its indentation, such as the beginning
and the end of a table that is written as a block.
-/

namespace SnapshotEngine.Yaml

/-- A part of a text. -/
inductive Token where
  /-- The end of the text. -/
  | endOfText
  /-- The version that a document is written in. -/
  | version
  /-- A short form for the beginning of tags. -/
  | tagShortcut (handle start : String)
  | documentStart
  | documentEnd
  | blockListStart
  | blockTableStart
  | blockEnd
  | flowListStart
  | flowListEnd
  | flowTableStart
  | flowTableEnd
  /-- The hyphen in front of an item. -/
  | blockItem
  /-- The comma behind an item or an entry. -/
  | flowItem
  /-- What follows is a key. -/
  | key
  /-- What follows is a value. -/
  | value
  | reference (name : String)
  | anchor (name : String)
  | tag (handle suffix : String)
  | scalar (isPlain : Bool) (text : String)
  /-- From here on the text cannot be read. -/
  | unreadable
deriving DecidableEq, Repr, Inhabited

end SnapshotEngine.Yaml
