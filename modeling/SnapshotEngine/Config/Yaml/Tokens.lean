import SnapshotEngine.Config.Yaml.Block
import SnapshotEngine.Config.Yaml.Outline
import SnapshotEngine.Config.Yaml.Scalar
import SnapshotEngine.Config.Yaml.Tag

/-!
# From a YAML text to its tokens

The tokens are found one after the other.  If the text cannot be read at some place,
what is certain up to there is kept, and the token `unreadable` stands for the rest.
-/

namespace SnapshotEngine.Yaml

open Text (isGap)

namespace Outline

/-! ## Between tokens -/

/-- Goes over white space, line breaks and comments.  In a line that is not indented
far enough a tab must have nothing behind it. -/
def skipSpace : Nat → Outline → Option Outline
  | 0, _ => none
  | fuel + 1, o =>
      let c := o.cursor
      match c.rest with
      | '\t' :: _ =>
          if !o.outer.isEmpty && c.isFresh && c.column < o.indent then
            c.endOfLine?.bind fun after => skipSpace fuel (o.moveTo after)
          else skipSpace fuel (o.moveTo (c.pass 1))
      | ' ' :: _ => skipSpace fuel (o.moveTo (c.pass 1))
      | '#' :: _ => skipSpace fuel (o.moveTo c.passLine)
      | x :: _ =>
          if isBreak x then
            skipSpace fuel { o.moveTo c.newLine with mayBeginKey := o.mayBeginKey || !o.inFlow }
          else some o
      | [] => some o

/-- Goes to the next token. -/
def toNext? (o : Outline) : Option Outline := skipSpace (o.cursor.rest.length + 1) o

/-- Goes over the white space that has to follow the mark of a key: blanks, line
breaks and comments. -/
def skipBehindMark : Nat → Bool → Outline → Option Outline
  | 0, _, _ => none
  | fuel + 1, found, o =>
      let c := o.cursor
      match c.rest with
      | ' ' :: _ => skipBehindMark fuel true (o.moveTo (c.pass 1))
      | '#' :: _ => skipBehindMark fuel found (o.moveTo c.passLine)
      | x :: _ =>
          if isBreak x then
            skipBehindMark fuel true
              { o.moveTo c.newLine with mayBeginKey := o.mayBeginKey || !o.inFlow }
          else if found && x ≠ '\t' then some o
          else none
      | [] => if found then some o else none

/-! ## One token of each kind -/

/-- Moves over the characters of a mark and the white space behind it. -/
def passMark? (o : Outline) : Option Outline :=
  (o.cursor.take 1).endOfToken?.map o.moveTo

/-- The opening bracket of a list or a table. -/
def openFlow? (isList : Bool) (o : Outline) : Option Outline := do
  let o ← o.beginKey.enterValue.openBracket?
  let o ← o.allowKey.passMark?
  if isList then
    return ({ o with openPairs := false :: o.openPairs } : Outline).push .flowListStart
  else return ({ o with hasFlowTable := true } : Outline).push .flowTableStart

/-- The closing bracket of a list or a table. -/
def closeFlow? (isList : Bool) (o : Outline) : Option Outline := do
  if o.inFlow then
    let o ← o.dropKey?
    let o ← o.closeBracket?
    let o := o.forbidKey
    let o :=
      if isList then
        let closed := o.closePair
        { closed with openPairs := closed.openPairs.drop 1 }
      else o
    let o ← o.passMark?
    let o := if o.inFlow then { o with colonAt := o.cursor.index } else o
    return o.push (if isList then .flowListEnd else .flowTableEnd)
  else none

/-- A comma. -/
def flowItem? (o : Outline) : Option Outline := do
  let o ← o.dropKey?
  let o ← o.allowKey.closePair.passMark?
  return o.push .flowItem

/-- The hyphen in front of an item. -/
def blockItem? (o : Outline) : Option Outline := do
  let column := o.cursor.column
  if o.inFlow || !o.mayBeginKey || (o.endsAtMargin && column = 0 && -1 < o.indent) then none
  else
    let o := (o.moveTo (o.cursor.take 1)).openBlock column o.tokens.size .blockListStart
    let gap ← o.cursor.gap? true
    let isHyphen :=
      match gap.cursor.rest with
      | '-' :: rest => atWordEnd rest
      | _ => false
    if gap.hasTab && isHyphen then none
    else
      let gap ← gap.cursor.gap? false
      let o := o.moveTo gap.cursor
      let isOpen := o.cursor.rest.head?.any fun c => isBreak c || isFlowMark c
      let o := if isOpen then o.enterValue else o
      let o ← o.dropKey?
      return o.allowKey.push .blockItem

/-- The question mark in front of a key. -/
def keyMark? (o : Outline) : Option Outline := do
  let opened : Option Outline :=
    if o.inFlow then some { o with hasFlowTable := true }
    else if o.mayBeginKey then
      some (o.openBlock o.cursor.column o.tokens.size .blockTableStart)
    else none
  let o ← opened
  let o ← o.dropKey?
  let o := { o with mayBeginKey := !o.inFlow }
  let o ← skipBehindMark (o.cursor.rest.length + 1) false (o.moveTo (o.cursor.take 1))
  return o.push .key

/-- Whether what is behind a tab could be taken for a value on the same line. -/
def isValueBehindTab (gap : Cursor.Gap) : Bool :=
  !gap.hasBlank && gap.cursor.rest.head?.any isNameChar

/-- Goes over a colon, and over the white space behind it if that begins with a
tab. -/
def passColon? (c : Cursor) : Option Cursor :=
  let after := c.take 1
  if after.rest.head? = some '\t' then
    ((after.gap? true).filter fun gap => !isValueBehindTab gap).map (·.cursor)
  else some after

/-- The colon in front of a value. -/
def value? (o : Outline) : Option Outline := do
  let start := o.cursor
  let isPair := !o.openPairs.isEmpty && !o.hasFlowTable
  let o := if isPair then { o with openPairs := true :: o.openPairs.drop 1 } else o
  let o := o.moveTo (← passColon? start)
  let key := o.keys.headD noKey
  if key.isPossible then
    if isPair && key.line < start.line then none
    else
      let o := o.insert key.number .key
      let o := if isPair then o.insert key.number .flowTableStart else o
      let o := (o.openBlock key.column key.number .blockTableStart).enterValue
      let o := { o with keys := key.givenUp :: o.keys.drop 1 }
      return o.forbidKey.push .value
  else
    let o := if isPair then o.push .flowTableStart else o
    if o.inFlow then return o.enterValue.forbidKey.push .value
    else if o.mayBeginKey then
      return (o.openBlock start.column o.tokens.size .blockTableStart).enterValue.allowKey.push
        .value
    else none

/-- The colon in front of a value, right behind a key in quotes or brackets or in
front of a bracket. -/
def flowValue? (o : Outline) : Option Outline :=
  let opens := (o.cursor.rest.drop 1).head?.any fun c => c = '[' || c = '\x7b'
  if o.cursor.index ≠ o.colonAt && opens then none else o.value?

/-- Remembers whether the token that was put behind the others stands at the beginning
of a line. -/
def pushAt (column : Nat) (token : Token) (o : Outline) : Outline :=
  { o.push token with endsAtMargin := column == 0 }

/-- An anchor, or a reference to one. -/
def anchor? (isReference : Bool) (o : Outline) : Option Outline := do
  let column := o.cursor.column
  let o := o.beginKey.forbidKey
  let (name, after) ← anchorName? o.cursor
  if isReference then return (o.moveTo after).push (.reference name)
  else return (o.moveTo after).pushAt column (.anchor name)

/-- A tag. -/
def tag? (o : Outline) : Option Outline := do
  let column := o.cursor.column
  let o := o.beginKey.forbidKey
  let (token, after) ← Yaml.tag? o.inFlow o.cursor
  return (o.moveTo after).pushAt column token

/-- A text that is a block of lines. -/
def block? (isFolded : Bool) (o : Outline) : Option Outline := do
  let o := o.beginKey.allowKey.leaveValue
  let (text, after) ← Block.read? isFolded o.indent (o.cursor.take 1)
  return (o.moveTo after).push (.scalar false (String.ofList text))

/-- A text in quotes. -/
def quoted? (quotes : Quotes) (o : Outline) : Option Outline := do
  let o := o.beginKey.forbidKey
  let (text, after) ← quotes.read? o.inFlow o.indent o.cursor
  let o ← (o.moveTo after).toNext?
  let o := { o with colonAt := o.cursor.index }
  return o.push (.scalar false (String.ofList text))

/-- A plain text. -/
def plain? (o : Outline) : Option Outline := do
  let o := o.beginKey.forbidKey.leaveValue
  let (text, after) ← Plain.read? o.inFlow o.indent o.cursor
  let o := o.moveTo after
  let o := { o with mayBeginKey := after.isFresh }
  return o.push (.scalar true (String.ofList text))

/-- A directive, or one of the marks around a document: it closes all blocks. -/
def closeDocument? (o : Outline) : Option Outline :=
  (o.closeBlocks (-1)).dropKey?.map forbidKey

/-- A directive. -/
def directive? (o : Outline) : Option Outline := do
  let o ← o.closeDocument?
  let (token, after) ← Yaml.directive? o.cursor
  return (o.moveTo after).push token

/-- The mark that begins a document. -/
def documentStart? (o : Outline) : Option Outline := do
  let o ← o.closeDocument?
  return (o.moveTo (o.cursor.take 3)).push .documentStart

/-- The mark that ends a document; the rest of its line is empty. -/
def documentEnd? (o : Outline) : Option Outline := do
  let o ← o.closeDocument?
  let after ← (o.cursor.take 3).endOfLine?
  return (o.moveTo after).push .documentEnd

/-- The end of the text, where no key may be left that has to be one. -/
def endOfText? (o : Outline) : Option Outline :=
  if o.keys.any fun key => key.isPossible && key.isNeeded then none
  else
    let o := { o with keys := o.keys.map KeyStart.givenUp }
    some ((o.closeBlocks (-1)).push .endOfText)

/-! ## All tokens -/

/-- The token that begins with a character, behind which the rest follows. -/
def tokenFrom? (c : Char) (rest : List Char) (o : Outline) : Option Outline :=
  let isMark := atWordEnd rest
  match c with
  | '[' => o.openFlow? true
  | '\x7b' => o.openFlow? false
  | ']' => o.closeFlow? true
  | '\x7d' => o.closeFlow? false
  | ',' => o.flowItem?
  | '-' => if isMark then o.blockItem? else o.plain?
  | '?' => if isMark then o.keyMark? else o.plain?
  | ':' =>
      if isMark then o.value?
      else if o.inFlow && (atFlowMark rest || o.cursor.index = o.colonAt) then o.flowValue?
      else o.plain?
  | '*' => o.anchor? true
  | '&' => o.anchor? false
  | '!' => o.tag?
  | '|' => if o.inFlow then o.plain? else o.block? false
  | '>' => if o.inFlow then o.plain? else o.block? true
  | '\'' => o.quoted? .single
  | '"' => o.quoted? .double
  | '%' | '@' | '\x60' => none
  | _ => o.plain?

/-- Whether a character closes or separates something within brackets, for which the
line need not be indented. -/
def isFree (c : Char) : Bool := c = ']' || c = '\x7d' || c = ','

/-- The next token, with those that only follow from the indentation. -/
def next? (o : Outline) : Option Outline := do
  let o ← o.toNext?
  let o ← o.dropLateKeys?
  let o := o.closeBlocks o.cursor.column
  match o.cursor.rest with
  | [] => o.endOfText?
  | c :: rest =>
      let atMargin := o.cursor.column = 0
      if atMargin && c = '%' then o.directive?
      else if atMargin && isMark '-' (c :: rest) then o.documentStart?
      else if atMargin && isMark '.' (c :: rest) then o.documentEnd?
      else if o.cursor.column < o.indent && !(o.inFlow && isFree c) then none
      else o.tokenFrom? c rest

/-- All tokens. -/
def allTokens : Nat → Outline → List Token
  | 0, o => o.certain
  | fuel + 1, o =>
      match o.next? with
      | none => o.certain
      | some next =>
          if next.tokens.back? = some .endOfText then next.tokens.toList
          else allTokens fuel next

end Outline

namespace Token

/-- The tokens of a text, which ends at the first character with code zero. -/
def ofText (cs : List Char) : List Token :=
  let text := cs.takeWhile (·.toNat ≠ 0)
  (Outline.ofText text).allTokens (text.length + 1)

end Token

end SnapshotEngine.Yaml
