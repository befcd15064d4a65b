import SnapshotEngine.Config.Yaml.Cursor
import SnapshotEngine.Config.Yaml.Token

/-!
# How a YAML text is laid out

While the tokens of a text are found one after the other, an outline keeps what the
next one depends on: how far the blocks that are open are indented, how deep the
brackets are nested, and where a key may have begun.  Whether something is a key
shows only when a colon follows, so its token is put in later, in front of what is
there already.
-/

namespace SnapshotEngine.Yaml

/-- A place where a key may have begun. -/
structure KeyStart where
  /-- Whether a colon may still make it a key. -/
  isPossible : Bool
  /-- Whether it has to become one. -/
  isNeeded : Bool
  /-- The number of tokens in front of it. -/
  number : Nat
  index : Nat
  line : Nat
  column : Nat
deriving Repr, Inhabited

/-- A place that is no key. -/
def KeyStart.givenUp (key : KeyStart) : KeyStart := { key with isPossible := false }

/-- A block that was left for a deeper one. -/
structure OuterBlock where
  /-- How far it is indented. -/
  indent : Int
  /-- Whether the deeper one is a list or a table and not just the place of a
  value. -/
  isLeftForBlock : Bool
deriving Repr, Inhabited

/-- What the next token depends on. -/
structure Outline where
  cursor : Cursor
  /-- The tokens so far. -/
  tokens : Array Token
  /-- Whether the last of them is an anchor or a tag at the beginning of a line. -/
  endsAtMargin : Bool
  /-- Whether a key may begin here. -/
  mayBeginKey : Bool
  /-- Where keys may have begun, the innermost brackets first. -/
  keys : List KeyStart
  /-- How far the innermost block is indented. -/
  indent : Int
  /-- The blocks around it, the innermost first. -/
  outer : List OuterBlock
  /-- How deep the brackets are nested. -/
  depth : Nat
  /-- Whether a table within brackets has been opened, so that its entries are no
  tables of their own. -/
  hasFlowTable : Bool
  /-- For each list within brackets whether an entry of its own is open, the
  innermost first. -/
  openPairs : List Bool
  /-- The place where a colon may stand right behind a key. -/
  colonAt : Nat
deriving Repr, Inhabited

namespace Outline

/-- How deep brackets may be nested. -/
def maxDepth : Nat := 255

/-- How many characters there may be between the beginning of a key and its colon. -/
def maxKeyLength : Nat := 1024

/-- No key has begun yet. -/
def noKey : KeyStart := ⟨false, false, 0, 0, 0, 0⟩

/-- The outline in front of the first token. -/
def ofText (cs : List Char) : Outline where
  cursor := .ofText cs
  tokens := #[]
  endsAtMargin := false
  mayBeginKey := true
  keys := [noKey]
  indent := -1
  outer := []
  depth := 0
  hasFlowTable := false
  openPairs := []
  colonAt := 0

/-- Whether the text here stands within brackets. -/
def inFlow (o : Outline) : Bool := 0 < o.depth

/-- Puts a token behind the others. -/
def push (token : Token) (o : Outline) : Outline :=
  { o with tokens := o.tokens.push token, endsAtMargin := false }

/-- Puts a token in front of the one with the given number. -/
def insert (number : Nat) (token : Token) (o : Outline) : Outline :=
  { o with tokens := o.tokens.insertIdxIfInBounds number token }

/-- Goes on at another place. -/
def moveTo (cursor : Cursor) (o : Outline) : Outline := { o with cursor }

/-! ## Blocks -/

/-- Closes the blocks that are indented by more than a column. -/
def closeFrom (column : Int) : List OuterBlock → Int → Array Token →
    Int × List OuterBlock × Array Token
  | [], indent, tokens => (indent, [], tokens)
  | block :: more, indent, tokens =>
      if column < indent then
        closeFrom column more block.indent
          (if block.isLeftForBlock then tokens.push .blockEnd else tokens)
      else (indent, block :: more, tokens)

/-- Closes the blocks that are indented by more than a column. -/
def closeBlocks (column : Int) (o : Outline) : Outline :=
  if o.inFlow then o
  else
    let (indent, outer, tokens) := closeFrom column o.outer o.indent o.tokens
    { o with
      indent
      outer
      tokens
      endsAtMargin := o.endsAtMargin && tokens.size = o.tokens.size }

/-- Leaves the place of a value again, without a block in it. -/
def leavePlaces : List OuterBlock → Int → Int × List OuterBlock
  | [], indent => (indent, [])
  | block :: more, indent =>
      if block.isLeftForBlock then (indent, block :: more) else leavePlaces more block.indent

/-- Leaves the places of values again. -/
def leaveValue (o : Outline) : Outline :=
  let (indent, outer) := leavePlaces o.outer o.indent
  { o with indent, outer }

/-- Enters the place of a value, which is indented by one column at least. -/
def enterValue (o : Outline) : Outline :=
  if !o.inFlow && o.outer.head?.any (·.isLeftForBlock) then
    { o with indent := o.indent + 1, outer := ⟨o.indent, false⟩ :: o.outer }
  else o

/-- Opens a block at a column, unless one is open there; its token goes in front of
the one with the given number. -/
def openBlock (column : Nat) (number : Nat) (token : Token) (o : Outline) : Outline :=
  if o.inFlow then o
  else
    let (indent, outer) :=
      match o.outer with
      | block :: more =>
          if o.indent ≤ column && !block.isLeftForBlock then (block.indent, more)
          else (o.indent, o.outer)
      | [] => (o.indent, [])
    if indent < column then
      { o.insert number token with
        indent := column
        outer := ⟨indent, true⟩ :: outer
        endsAtMargin := o.endsAtMargin && number < o.tokens.size }
    else { o with indent, outer }

/-! ## Keys -/

/-- A key may begin from here on. -/
def allowKey (o : Outline) : Outline := { o with mayBeginKey := true }

/-- No key may begin from here on. -/
def forbidKey (o : Outline) : Outline := { o with mayBeginKey := false }

/-- Remembers that a key may begin here.  It has to be one if it stands where the
entries of an open block begin. -/
def beginKey (o : Outline) : Outline :=
  if o.mayBeginKey then
    let here : KeyStart :=
      { isPossible := true
        isNeeded := !o.inFlow && o.indent = o.cursor.column
          && o.outer.head?.any (·.isLeftForBlock)
        number := o.tokens.size
        index := o.cursor.index
        line := o.cursor.line
        column := o.cursor.column }
    { o with keys := here :: o.keys.drop 1 }
  else o

/-- Gives the key that may have begun up; nothing if there has to be one. -/
def dropKey? (o : Outline) : Option Outline :=
  match o.keys with
  | key :: more =>
      if key.isPossible && key.isNeeded then none
      else some { o with keys := key.givenUp :: more }
  | [] => some o

/-- Whether it is too late for a colon to make something a key: it began on another
line, or too far back.  Within brackets it never is. -/
def isLate (o : Outline) (key : KeyStart) : Bool :=
  key.isPossible && !o.inFlow
    && (key.line < o.cursor.line || key.index + maxKeyLength < o.cursor.index)

/-- Gives up all keys for which it is too late; nothing if there has to be one. -/
def dropLateKeys? (o : Outline) : Option Outline :=
  if o.keys.any fun key => o.isLate key && key.isNeeded then none
  else
    some { o with
      keys := o.keys.map fun key => if o.isLate key then key.givenUp else key }

/-! ## Brackets -/

/-- Opens a bracket. -/
def openBracket? (o : Outline) : Option Outline :=
  if o.depth = maxDepth then none
  else some { o with keys := noKey :: o.keys, depth := o.depth + 1 }

/-- Closes a bracket; there has to be one. -/
def closeBracket? (o : Outline) : Option Outline :=
  if o.depth = 0 then none
  else some { o with keys := o.keys.drop 1, depth := o.depth - 1 }

/-- Closes the entry of its own that is open in a list within brackets. -/
def closePair (o : Outline) : Outline :=
  match o.openPairs with
  | true :: more =>
      ({ o with hasFlowTable := false, openPairs := false :: more } : Outline).push .flowTableEnd
  | _ => o

/-- The tokens that are certain when the text cannot be read any further: those in
front of the first that may still become a key. -/
def certain (o : Outline) : List Token :=
  let begun := o.keys.filter fun key => key.isPossible && !o.isLate key
  let number := begun.foldl (fun n key => min n key.number) o.tokens.size
  o.tokens.toList.take number ++ [.unreadable]

end Outline

end SnapshotEngine.Yaml
