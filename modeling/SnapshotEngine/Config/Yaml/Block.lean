import SnapshotEngine.Config.Yaml.Cursor

/-!
# Texts in YAML that are blocks of lines

A text may be written below a mark, as a block of indented lines.  Its lines are
either kept as they are or folded; lines that begin with white space are not folded.
How far the block is indented is written behind the mark or taken from the blank
lines at the beginning and the first line that holds something.
-/

namespace SnapshotEngine.Yaml

open Text (isGap)

/-- What becomes of the line breaks at the end of a block. -/
inductive Chomping where
  /-- They are dropped. -/
  | strip
  /-- One is kept. -/
  | clip
  /-- All are kept. -/
  | keep
deriving DecidableEq, Repr

/-- What is written behind the mark of a block. -/
structure BlockHeader where
  chomping : Chomping
  /-- How much further than what is around it the block is indented, if that is
  set. -/
  indent : Option Nat
  cursor : Cursor
deriving Repr

namespace BlockHeader

/-- The chomping that a character stands for. -/
def chomping? : Char → Option Chomping
  | '+' => some .keep
  | '-' => some .strip
  | _ => none

/-- Reads an indentation; zero is none. -/
def indent? (c : Cursor) : Option (Option Nat × Cursor) :=
  match c.rest with
  | x :: _ =>
      if x = '0' then none
      else if x.isDigit then some (some (x.toNat - 0x30), c.take 1)
      else some (none, c)
  | [] => some (none, c)

/-- Reads the header of a block, in either order. -/
def read? (c : Cursor) : Option BlockHeader := do
  match c.rest.head?.bind chomping? with
  | some chomping =>
      let (indent, after) ← indent? (c.take 1)
      return ⟨chomping, indent, after⟩
  | none =>
      let (indent, after) ← indent? c
      match indent.bind fun _ => after.rest.head?.bind chomping? with
      | some chomping => return ⟨chomping, indent, after.take 1⟩
      | none => return ⟨.clip, indent, after⟩

end BlockHeader

namespace Block

/-- The number of blanks at a place. -/
def blanks (c : Cursor) : Nat := (c.rest.takeWhile (· = ' ')).length

/-- Goes over lines that hold nothing but indentation, and over the indentation of
the line behind them; counts their breaks. -/
def skipIndent (indent : Nat) : Nat → Nat → Cursor → Nat × Cursor
  | 0, breaks, c => (breaks, c)
  | fuel + 1, breaks, c =>
      let after := c.pass (min (blanks c) (indent - c.column))
      if after.rest.head?.any isBreak then skipIndent indent fuel (breaks + 1) after.newLine
      else (breaks, after)

/-- Goes over lines that hold nothing but blanks, and over the blanks of the line
behind them; counts the breaks and finds the deepest indentation. -/
def findIndent : Nat → Nat → Nat → Cursor → Nat × Nat × Cursor
  | 0, deepest, breaks, c => (deepest, breaks, c)
  | fuel + 1, deepest, breaks, c =>
      let after := c.pass (blanks c)
      let deepest := max deepest after.column
      if after.rest.head?.any isBreak then findIndent fuel deepest (breaks + 1) after.newLine
      else (deepest, breaks, after)

/-- What is behind the lines of a block that were read. -/
structure Ending where
  text : List Char
  /-- Whether the last line ends with a break. -/
  hasBreak : Bool
  /-- The number of blank lines behind it. -/
  blankLines : Nat
  cursor : Cursor
deriving Repr, Inhabited

/-- What stands between two lines of a block, if it is folded there or not. -/
def between (isFolded hasBreak : Bool) (blankLines : Nat) : List Char :=
  if isFolded && hasBreak then
    if blankLines = 0 then [' '] else List.replicate blankLines '\n'
  else List.replicate (blankLines + if hasBreak then 1 else 0) '\n'

/-- Reads the lines of a block that are indented by `indent`.  The ending tells what
is in front of them, and `afterGap` whether the line there began with white space. -/
def readLines (isFolded : Bool) (indent : Nat) : Nat → Bool → Ending → Ending
  | 0, _, ending => ending
  | fuel + 1, afterGap, ending =>
      let c := ending.cursor
      if c.column = indent && !c.rest.isEmpty && !(indent = 0 && isMark '.' c.rest) then
        let isGapHere := c.rest.head?.any isGap
        let lead :=
          between (isFolded && !afterGap && !isGapHere) ending.hasBreak ending.blankLines
        let text := ending.text ++ lead ++ c.rest.takeWhile (!isBreak ·)
        let after := c.passLine
        if after.rest.isEmpty then ⟨text, false, 0, after⟩
        else
          let (blankLines, next) := skipIndent indent after.rest.length 0 after.newLine
          readLines isFolded indent fuel isGapHere ⟨text, true, blankLines, next⟩
      else ending

/-- The text of a block: its lines and the line breaks behind them that are kept. -/
def chomp (chomping : Chomping) (indent : Nat) (ending : Ending) : List Char :=
  let atEnd := ending.cursor.rest.isEmpty && max indent 1 ≤ ending.cursor.column
  let last := List.replicate ((if ending.hasBreak then 1 else 0) + if atEnd then 1 else 0) '\n'
  match chomping with
  | .strip => ending.text
  | .clip => ending.text ++ last
  | .keep => ending.text ++ last ++ List.replicate ending.blankLines '\n'

/-- The text of a block without any lines at the end of a file. -/
def emptyText (chomping : Chomping) (hasBreak : Bool) (blankLines : Nat) : List Char :=
  match chomping with
  | .strip => []
  | .clip => if hasBreak then ['\n'] else []
  | .keep => if hasBreak then List.replicate (max blankLines 1) '\n' else []

/-- Reads a block behind its mark; what is around it is indented by `indent`. -/
def read? (isFolded : Bool) (indent : Int) (c : Cursor) : Option (List Char × Cursor) := do
  let header ← BlockHeader.read? c
  let lineEnd ← header.cursor.endOfLine?
  let start := lineEnd.newLine
  if start.rest.head? = some '\t' then none
  else
    let (depth, blankLines, first) :=
      match header.indent with
      | some more =>
          let depth := (max indent 0).toNat + more
          (depth, skipIndent depth (start.rest.length + 1) 0 start)
      | none =>
          let (deepest, found) := findIndent (start.rest.length + 1) 0 0 start
          (max deepest (indent + 1).toNat, found)
    if first.rest.isEmpty then
      return (emptyText header.chomping (c.line < first.line) blankLines, first)
    else if first.column < depth ∧ indent < first.column then none
    else
      let ending :=
        readLines isFolded depth (first.rest.length + 1) false ⟨[], false, blankLines, first⟩
      return (chomp header.chomping depth ending, ending.cursor)

end Block

end SnapshotEngine.Yaml
