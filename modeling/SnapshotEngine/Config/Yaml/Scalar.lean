import SnapshotEngine.Config.Yaml.Cursor
import SnapshotEngine.Text.Hex

/-!
# Texts in YAML, plain and in quotes

Both kinds of text may go on over several lines.  What is between two words is
folded: without a line break it stays as it is, a single line break is a blank, and
of several the first is dropped.  A line that goes on with a text has to be indented
like everything else where the text stands.
-/

namespace SnapshotEngine.Yaml

open Text (isGap)

/-- What white space or line breaks between two words stand for. -/
def folded (blanks : List Char) : Nat → List Char
  | 0 => blanks
  | 1 => [' ']
  | breaks + 1 => List.replicate breaks '\n'

/-- White space and line breaks between two words. -/
structure Fold where
  /-- The white space in front of the first line break. -/
  blanks : List Char
  /-- The number of line breaks. -/
  breaks : Nat
  /-- The place behind them. -/
  cursor : Cursor
deriving Repr, Inhabited

namespace Fold

/-- Goes over white space and line breaks; `tab?` tells where to go on at a tab that
has nothing but white space in front of it. -/
def read (tab? : Cursor → Option Cursor) : Nat → Fold → Option Fold
  | 0, _ => none
  | fuel + 1, fold =>
      let c := fold.cursor
      match c.rest with
      | [] => some fold
      | x :: _ =>
          if isBreak x then
            read tab? fuel { fold with breaks := fold.breaks + 1, cursor := c.newLine }
          else if !isGap x then some fold
          else if !c.isFresh then
            read tab? fuel { fold with blanks := fold.blanks ++ [x], cursor := c.pass 1 }
          else if x = '\t' then
            (tab? c).bind fun after => read tab? fuel { fold with cursor := after }
          else read tab? fuel { fold with cursor := c.pass 1 }

/-- The white space and the line breaks at a place. -/
def at? (tab? : Cursor → Option Cursor) (c : Cursor) : Option Fold :=
  read tab? (c.rest.length + 1) ⟨[], 0, c⟩

/-- What is between the two words. -/
def text (fold : Fold) : List Char := folded fold.blanks fold.breaks

end Fold

/-! ## Texts in quotes -/

/-- The character that an escape of one character stands for. -/
def simpleEscape? : Char → Option Char
  | '0' => some '\x00'
  | 'a' => some '\x07'
  | 'b' => some '\x08'
  | 't' => some '\t'
  | '\t' => some '\t'
  | 'n' => some '\n'
  | 'v' => some '\x0b'
  | 'f' => some '\x0c'
  | 'r' => some '\r'
  | 'e' => some '\x1b'
  | ' ' => some ' '
  | '"' => some '"'
  | '/' => some '/'
  | '\\' => some '\\'
  | 'N' => some (Char.ofNat 0x85)
  | '_' => some (Char.ofNat 0xA0)
  | 'L' => some (Char.ofNat 0x2028)
  | 'P' => some (Char.ofNat 0x2029)
  | _ => none

/-- The character that an escape stands for, behind its backslash, and the number of
characters of the escape. -/
def escape? : List Char → Option (Char × Nat)
  | [] => none
  | 'x' :: rest => (Hex.char? 2 rest).map fun r => (r.1, 3)
  | 'u' :: rest => (Hex.char? 4 rest).map fun r => (r.1, 5)
  | 'U' :: rest => (Hex.char? 8 rest).map fun r => (r.1, 9)
  | c :: _ => (simpleEscape? c).map fun plain => (plain, 1)

/-- The two kinds of quotes. -/
inductive Quotes where
  /-- A quote is written twice, and there are no escapes. -/
  | single
  | double
deriving DecidableEq, Repr

namespace Quotes

/-- The character at both ends of a text. -/
def mark : Quotes → Char
  | .single => '\''
  | .double => '"'

/-- A part of a text without white space. -/
structure Part where
  text : List Char
  /-- Whether it ends with a backslash in front of a line break. -/
  isJoined : Bool
  /-- The place behind it. -/
  cursor : Cursor
deriving Repr, Inhabited

/-- Reads a text up to white space or the quote that ends it. -/
def readPart (quotes : Quotes) : Nat → Cursor → Option Part
  | 0, _ => none
  | fuel + 1, c =>
      let more (x : Char) (after : Cursor) : Option Part :=
        (readPart quotes fuel after).map fun part => { part with text := x :: part.text }
      match c.rest with
      | [] => some ⟨[], false, c⟩
      | x :: rest =>
          if isGap x || isBreak x then some ⟨[], false, c⟩
          else if x = quotes.mark then
            if quotes = .single && rest.head? = some x then more x (c.take 2)
            else some ⟨[], false, c⟩
          else if quotes = .double && x = '\\' then
            if rest.head?.any isBreak then some ⟨[], true, (c.take 1).newLine⟩
            else (escape? rest).bind fun (plain, count) => more plain (c.take (count + 1))
          else more x (c.take 1)

/-- Reads a text behind the quote that opens it, in lines that are indented by at
least `indent`. -/
def read (quotes : Quotes) (indent : Int) : Nat → Cursor → Option (List Char × Cursor)
  | 0, _ => none
  | fuel + 1, c =>
      if (c.column = 0 && atDocumentMark c.rest) || c.rest.isEmpty || c.column < indent then none
      else do
        let part ← readPart quotes (c.rest.length + 1) c
        if part.cursor.rest.head? = some quotes.mark then
          return (part.text, part.cursor.take 1)
        else
          let fold ← Fold.at? (fun c => if c.column < indent then none else some (c.pass 1))
            part.cursor
          let between :=
            if part.isJoined then List.replicate fold.breaks '\n' else fold.text
          let (more, last) ← read quotes indent fuel fold.cursor
          return (part.text ++ between ++ more, last)

/-- Whether something may follow a text in quotes that began on the given line. -/
def mayEnd (inFlow : Bool) (line : Nat) (c : Cursor) : Bool :=
  atLineEnd c.rest
    || (c.rest.head? = some ':' && (inFlow || line = c.line))
    || (inFlow && (c.rest.head? = some ',' || c.rest.head? = some ']'
      || c.rest.head? = some '\x7d'))

/-- Reads a text in quotes, and the white space behind it. -/
def read? (quotes : Quotes) (inFlow : Bool) (indent : Int) (c : Cursor) :
    Option (List Char × Cursor) := do
  let (text, last) ← read quotes indent (c.rest.length + 1) (c.take 1)
  let after ← last.endOfToken?
  if mayEnd inFlow c.line after then return (text, after) else none

end Quotes

/-! ## Plain texts -/

namespace Plain

/-- Whether a plain text goes on with what follows. -/
def goesOn (inFlow : Bool) : List Char → Bool
  | [] => false
  | c :: rest =>
      !(isGap c || isBreak c) && !(inFlow && isFlowMark c)
        && !(c = ':' && (atWordEnd rest || (inFlow && atFlowMark rest)))

/-- Splits a word off. -/
def spanWord (inFlow : Bool) : List Char → List Char × List Char
  | [] => ([], [])
  | c :: rest =>
      if goesOn inFlow (c :: rest) then
        let r := spanWord inFlow rest
        (c :: r.1, r.2)
      else ([], c :: rest)

/-- Whether a hyphen follows with a mark of lists and tables behind it. -/
def atHyphen : List Char → Bool
  | '-' :: rest => atFlowMark rest
  | _ => false

/-- Where to go on at a tab: in a line that is indented by less than `low` there must
be nothing else. -/
def tab? (low : Int) (c : Cursor) : Option Cursor :=
  if c.column < low then c.endOfLine? else some (c.pass 1)

/-- Reads words and what is between them; `between` goes in front of the first. -/
def read (inFlow : Bool) (low : Int) : Nat → List Char → Cursor → Option (List Char × Cursor)
  | 0, _, _ => none
  | fuel + 1, between, c =>
      if (c.isFresh && atDocumentMark c.rest) || c.rest.head? = some '#' then some ([], c)
      else if inFlow && atHyphen c.rest then none
      else
        let word := (spanWord inFlow c.rest).1
        let here := if word.isEmpty then [] else between ++ word
        let after := if word.isEmpty then c else c.take word.length
        if after.rest.isEmpty || !atWordEnd after.rest then some (here, after)
        else do
          let fold ← Fold.at? (tab? low) after
          if !inFlow && fold.cursor.column < low then return (here, fold.cursor)
          else
            let (more, last) ← read inFlow low fuel fold.text fold.cursor
            return (here ++ more, last)

/-- Reads a plain text in lines that are indented by more than `indent`. -/
def read? (inFlow : Bool) (indent : Int) (c : Cursor) : Option (List Char × Cursor) :=
  if inFlow && c.column < indent + 1 then none
  else (read inFlow (indent + 1) (c.rest.length + 1) [] c).filter fun r => !r.1.isEmpty

end Plain

end SnapshotEngine.Yaml
