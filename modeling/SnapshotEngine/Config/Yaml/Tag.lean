import SnapshotEngine.Config.Yaml.Cursor
import SnapshotEngine.Config.Yaml.Token
import SnapshotEngine.Text.Hex

/-!
# Tags, anchors and directives

Words that begin with an exclamation mark are tags, those with an ampersand anchors,
and those with an asterisk refer back to anchors.  Lines that begin with a percent
sign are directives of the document below them; a directive with an unknown name
counts as one that gives the empty tag an empty beginning.
-/

namespace SnapshotEngine.Yaml

open Text (isGap skipGaps)

/-- The characters of the names of anchors. -/
def isAnchorChar (c : Char) : Bool :=
  !(isGap c || isBreak c || isFlowMark c || c = '\uFEFF')

/-- The characters of tags in their long form. -/
def isLongTagChar (c : Char) : Bool :=
  isNameChar c || (['#', ';', '/', '?', ':', '@', '&', '=', '+', '$', ',', '.', '!', '~', '*',
    '\'', '(', ')', '[', ']', '%'].contains c)

/-- The characters of tags. -/
def isTagChar (c : Char) : Bool := isLongTagChar c && !isFlowMark c && c ≠ '!'

/-- The number of bytes of a character whose first byte is given. -/
def byteCount? (lead : Nat) : Option Nat :=
  if lead < 0x80 then some 1
  else if lead < 0xC0 then none
  else if lead < 0xE0 then some 2
  else if lead < 0xF0 then some 3
  else if lead < 0xF8 then some 4
  else none

/-- Reads `count` further bytes of a character that are written as escapes; the bytes
are strung together. -/
def readBytes : Nat → Nat → Cursor → Option (Nat × Cursor)
  | 0, code, c => some (code, c)
  | count + 1, code, c =>
      match c.rest with
      | '%' :: rest =>
          match Hex.take? 2 rest with
          | some (byte, _) =>
              if byte / 0x40 = 2 then readBytes count (code * 0x100 + byte) (c.take 3) else none
          | none => none
      | _ => none

/-- Reads a character that is written as escapes of its bytes. -/
def readEscaped? (c : Cursor) : Option (Char × Cursor) := do
  let (lead, _) ← Hex.take? 2 (c.rest.drop 1)
  let count ← byteCount? lead
  let (code, after) ← readBytes (count - 1) lead (c.take 3)
  if code.isValidChar then return (Char.ofNat code, after) else none

/-- Reads characters of a tag as long as they satisfy `p`. -/
def readTagChars (p : Char → Bool) : Nat → Cursor → Option (List Char × Cursor)
  | 0, _ => none
  | fuel + 1, c =>
      match c.rest with
      | [] => some ([], c)
      | x :: _ =>
          if !p x then some ([], c)
          else if x = '%' then
            match readEscaped? c with
            | some (escaped, after) =>
                (readTagChars p fuel after).map fun r => (escaped :: r.1, r.2)
            | none => none
          else (readTagChars p fuel (c.take 1)).map fun r => (x :: r.1, r.2)

/-- Reads characters of a tag as long as they satisfy `p`, as many as there are. -/
def tagChars? (p : Char → Bool) (c : Cursor) : Option (List Char × Cursor) :=
  readTagChars p (c.rest.length + 1) c

/-- Reads the handle of a tag: an exclamation mark, a name, and perhaps a second
mark. -/
def handle? (c : Cursor) : Option (List Char × Cursor) :=
  match c.rest with
  | '!' :: rest =>
      let name := rest.takeWhile isNameChar
      let after := c.take (name.length + 1)
      if after.rest.head? = some '!' then some ('!' :: name ++ ['!'], after.take 1)
      else some ('!' :: name, after)
  | _ => none

/-- Whether a handle has a mark at either end. -/
def isFullHandle (handle : List Char) : Bool :=
  2 ≤ handle.length && handle.getLast? = some '!'

/-- Reads the parts of a tag: its handle and what follows it. -/
def tagParts? (c : Cursor) : Option ((List Char × List Char) × Cursor) :=
  match c.rest with
  | '!' :: '<' :: _ => do
      let (name, after) ← tagChars? isLongTagChar (c.take 2)
      if after.rest.head? = some '>' then return (([], name), after.take 1) else none
  | _ => do
      let (handle, afterHandle) ← handle? c
      let (suffix, after) ← tagChars? isTagChar afterHandle
      if isFullHandle handle then
        if suffix.isEmpty then none else return ((handle, suffix), after)
      else
        match handle.drop 1 ++ suffix with
        | [] => return (([], ['!']), after)
        | whole => return ((['!'], whole), after)

/-- Reads a tag. -/
def tag? (inFlow : Bool) (c : Cursor) : Option (Token × Cursor) := do
  let ((handle, suffix), after) ← tagParts? c
  if atWordEnd after.rest || (inFlow && atFlowMark after.rest) then
    return (.tag (String.ofList handle) (String.ofList suffix), after)
  else none

/-- Reads the name of an anchor behind its mark. -/
def anchorName? (c : Cursor) : Option (String × Cursor) :=
  let name := (c.rest.drop 1).takeWhile isAnchorChar
  if name.isEmpty then none else some (String.ofList name, c.take (name.length + 1))

/-- Goes over a number of at most nine digits. -/
def versionNumber? (c : Cursor) : Option Cursor :=
  let count := (c.rest.takeWhile Char.isDigit).length
  if 1 ≤ count ∧ count ≤ 9 then some (c.take count) else none

/-- Reads the beginning of tags in a directive. -/
def tagStart? (c : Cursor) : Option (List Char × Cursor) :=
  match c.rest with
  | '!' :: _ => (tagChars? isLongTagChar (c.take 1)).map fun r => ('!' :: r.1, r.2)
  | x :: _ => if isTagChar x then tagChars? isLongTagChar c else none
  | [] => none

/-- Reads what a directive says, behind its name. -/
def directiveValue? (name : String) (c : Cursor) : Option (Token × Cursor) := do
  if name = "YAML" then
    let dot ← versionNumber? (c.passWhile isGap)
    if dot.rest.head? = some '.' then return (.version, ← versionNumber? (dot.take 1)) else none
  else if name = "TAG" then
    let (handle, afterHandle) ← handle? (c.passWhile isGap)
    if !(handle = ['!'] || isFullHandle handle) then none
    else
      let (start, after) ← tagStart? (afterHandle.passWhile isGap)
      if atWordEnd after.rest then
        return (.tagShortcut (String.ofList handle) (String.ofList start), after)
      else none
  else return (.tagShortcut "" "", c.passLine)

/-- Reads a directive, to the beginning of the next line. -/
def directive? (c : Cursor) : Option (Token × Cursor) := do
  let name := (c.rest.drop 1).takeWhile isNameChar
  let afterName := c.take (name.length + 1)
  if name.isEmpty || !atWordEnd afterName.rest then none
  else
    let (token, after) ← directiveValue? (String.ofList name) afterName
    let lineEnd ← after.endOfLine?
    return (token, lineEnd.newLine)

end SnapshotEngine.Yaml
