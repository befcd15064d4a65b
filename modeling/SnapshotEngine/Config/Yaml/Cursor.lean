import SnapshotEngine.Text.Line

/-!
# A place in a YAML text

What a character means depends on where it stands: in which line and column, and
whether anything but white space is in front of it on its line.  A cursor is such
a place, with the text from there on.
-/

namespace SnapshotEngine.Yaml

open Text (isGap)

/-- The characters that end a line. -/
def isBreak (c : Char) : Bool := c = '\n' || c = '\r'

/-- The marks of lists and tables within brackets. -/
def isFlowMark (c : Char) : Bool :=
  c = ',' || c = '[' || c = ']' || c = '\x7b' || c = '\x7d'

/-- The characters of names. -/
def isNameChar (c : Char) : Bool := c.isAlphanum || c = '_' || c = '-'

/-- Whether a line is over. -/
def atLineEnd : List Char → Bool
  | [] => true
  | c :: _ => isBreak c

/-- Whether a word is over: white space follows, or the end of the line. -/
def atWordEnd : List Char → Bool
  | [] => true
  | c :: _ => isGap c || isBreak c

/-- Whether a mark of lists and tables follows. -/
def atFlowMark : List Char → Bool
  | [] => false
  | c :: _ => isFlowMark c

/-- Whether a word consists of three times the same mark. -/
def isMark (mark : Char) : List Char → Bool
  | a :: b :: c :: rest => a = mark && b = mark && c = mark && atWordEnd rest
  | _ => false

/-- Whether the mark that begins or the one that ends a document follows. -/
def atDocumentMark (cs : List Char) : Bool := isMark '-' cs || isMark '.' cs

/-- A place in a text. -/
structure Cursor where
  /-- The text from here on. -/
  rest : List Char
  /-- The number of characters in front of this place. -/
  index : Nat
  /-- The number of lines in front of this one. -/
  line : Nat
  /-- The number of characters in front of this place on its line. -/
  column : Nat
  /-- Whether nothing but white space is in front of this place on its line. -/
  isFresh : Bool
deriving Repr, Inhabited

namespace Cursor

/-- The beginning of a text. -/
def ofText (cs : List Char) : Cursor := ⟨cs, 0, 0, 0, true⟩

/-- Goes over characters of this line that are white space. -/
def pass (count : Nat) (c : Cursor) : Cursor :=
  { c with
    rest := c.rest.drop count
    index := c.index + count
    column := c.column + count }

/-- Goes over characters of this line. -/
def take (count : Nat) (c : Cursor) : Cursor := { c.pass count with isFresh := false }

/-- Goes over the characters of this line that satisfy `p`. -/
def passWhile (p : Char → Bool) (c : Cursor) : Cursor := c.pass (c.rest.takeWhile p).length

/-- Goes over what is left of this line. -/
def passLine (c : Cursor) : Cursor := c.passWhile (!isBreak ·)

/-- Goes over a line break, if there is one. -/
def newLine (c : Cursor) : Cursor :=
  match c.rest with
  | '\r' :: '\n' :: rest => ⟨rest, c.index + 2, c.line + 1, 0, true⟩
  | '\r' :: rest | '\n' :: rest => ⟨rest, c.index + 1, c.line + 1, 0, true⟩
  | _ => c

/-- What follows the white space behind a token. -/
structure Gap where
  cursor : Cursor
  hasTab : Bool
  hasBlank : Bool
deriving Repr, Inhabited

/-- Goes over white space and a comment behind it; without white space there must
be no comment.  Tabs are white space only where they may be. -/
def gap? (tabs : Bool) (c : Cursor) : Option Gap :=
  let isSpace (x : Char) : Bool := x = ' ' || (tabs && x = '\t')
  let spaces := c.rest.takeWhile isSpace
  let after := c.pass spaces.length
  let found (cursor : Cursor) : Gap := ⟨cursor, spaces.contains '\t', spaces.contains ' '⟩
  match after.rest with
  | '#' :: _ => if spaces.isEmpty then none else some (found after.passLine)
  | _ => some (found after)

/-- Goes over the white space behind a token, to the end of its line at most. -/
def endOfToken? (c : Cursor) : Option Cursor := (c.gap? true).map (·.cursor)

/-- Goes over the rest of a line, which holds nothing but white space and perhaps
a comment. -/
def endOfLine? (c : Cursor) : Option Cursor :=
  c.endOfToken?.filter fun after => atLineEnd after.rest

end Cursor

end SnapshotEngine.Yaml
