import SnapshotEngine.Rehearsal.Shell.Syntax

/-!
# Reading a script as tokens

A script is read from the left: blanks separate words, a few characters are
marks or redirections, a number sign at the start of a word begins a comment,
and everything else belongs to a word.  Where a script breaks off within quotes
or an expansion, the last token says so.
-/

namespace SnapshotEngine.Shell

/-- The white space between words. -/
def isGap (c : Char) : Bool := c = ' ' || c = '\t'

/-- The characters that end a word. -/
def endsWord (c : Char) : Bool :=
  isGap c || c = '\n' || c = ';' || c = '&' || c = '|' || c = '<' || c = '>' || c = '('
    || c = ')'

/-- The characters of names. -/
def isNameChar (c : Char) : Bool := c.isAlphanum || c = '_'

/-- Whether a text is a name. -/
def isName : List Char → Bool
  | [] => false
  | c :: cs => !c.isDigit && (c :: cs).all isNameChar

/-- The parameters that are named by one mark. -/
def isSpecial (c : Char) : Bool :=
  c = '@' || c = '*' || c = '#' || c = '?' || c = '$' || c = '!' || c = '-' || c.isDigit

/-! ## Where a script may break off -/

/-- A quote is not closed. -/
def openQuote : String := "Syntax error: Unterminated quoted string"

/-- A brace is not closed. -/
def openBrace : String := "Syntax error: Missing '\x7d'"

/-- A parenthesis is not closed. -/
def openParen : String := "Syntax error: end of file unexpected (expecting \")\")"

/-- An arithmetic expression is not closed. -/
def openArithmetic : String := "Syntax error: Missing '))'"

/-- A backward quote is not closed. -/
def openBackquote : String := "Syntax error: EOF in backquote substitution"

/-- Splits a text at a quote. -/
def upToQuote (quote : Char) : List Char → Option (List Char × List Char)
  | [] => none
  | c :: cs =>
      if c = quote then some ([], cs) else (upToQuote quote cs).map fun r => (c :: r.1, r.2)

/-- Splits a text at a backward quote; a backslash in front of a dollar sign, a
backslash or a backward quote is dropped. -/
def upToBackquote : List Char → Option (List Char × List Char)
  | [] => none
  | '\\' :: c :: cs =>
      let kept := if c = '$' || c = '\\' || c = '\x60' then [c] else ['\\', c]
      (upToBackquote cs).map fun r => (kept ++ r.1, r.2)
  | c :: cs =>
      if c = '\x60' then some ([], cs) else (upToBackquote cs).map fun r => (c :: r.1, r.2)

/-- Splits a text at a backward quote, and keeps every backslash. -/
def rawBackquote : List Char → Option (List Char × List Char)
  | [] => none
  | '\\' :: c :: cs => (rawBackquote cs).map fun r => ('\\' :: c :: r.1, r.2)
  | c :: cs =>
      if c = '\x60' then some ([], cs) else (rawBackquote cs).map fun r => (c :: r.1, r.2)

/-- What ends a part of a script. -/
inductive Closing where
  | quote
  | brace
  | paren
  /-- Two parentheses; the number counts those that are open within. -/
  | arithmetic (level : Nat)
deriving DecidableEq, Repr

namespace Closing

/-- How the end of a part is written. -/
def text : Closing → List Char
  | .quote => ['"']
  | .brace => ['\x7d']
  | .paren => [')']
  | .arithmetic _ => [')', ')']

/-- Why a script breaks off that does not end a part. -/
def reason (closing : Closing) (inQuotes : Bool) : String :=
  match closing with
  | .quote => openQuote
  | .brace => if inQuotes then openQuote else openBrace
  | .paren => openParen
  | .arithmetic _ => openArithmetic

/-- Whether a text begins with the end of a part. -/
def isAt (closing : Closing) (cs : List Char) : Bool :=
  match closing with
  | .arithmetic (_ + 1) => false
  | _ => closing.text.isPrefixOf cs

/-- What ends the part behind a character that belongs to it. -/
def past (closing : Closing) (c : Char) : Closing :=
  match closing, c with
  | .arithmetic level, '(' => .arithmetic (level + 1)
  | .arithmetic level, ')' => .arithmetic (level - 1)
  | closing, _ => closing

end Closing

/-- Splits a text at what closes the part that was opened before it; what is opened
within is passed over.  `inQuotes` says whether a single quote is no quote. -/
def upToClose : Closing → Nat → Bool → List Char → Except String (List Char × List Char)
  | closing, 0, inQuotes, _ => .error (closing.reason inQuotes)
  | closing, _ + 1, inQuotes, [] => .error (closing.reason inQuotes)
  | closing, fuel + 1, inQuotes, c :: cs =>
      /- Goes on behind a part that is passed over. -/
      let behind (part rest : List Char) : Except String (List Char × List Char) := do
        let (body, after) ← upToClose closing fuel inQuotes rest
        return (part ++ body, after)
      /- Passes over a part that has an end of its own. -/
      let pass (lead : List Char) (inner : Closing) (quoted : Bool) (rest : List Char) :
          Except String (List Char × List Char) := do
        let (body, after) ← upToClose inner fuel quoted rest
        behind (lead ++ body ++ inner.text) after
      let step : Except String (List Char × List Char) := do
        let (body, after) ← upToClose (closing.past c) fuel inQuotes cs
        return (c :: body, after)
      let isArithmetic := match closing with | .arithmetic _ => true | _ => false
      if closing.isAt (c :: cs) then .ok ([], (c :: cs).drop closing.text.length)
      else
        match c, cs with
        | '\\', d :: rest => behind ['\\', d] rest
        | '$', '(' :: '(' :: rest => pass ['$', '(', '('] (.arithmetic 0) true rest
        | '$', '(' :: rest => pass ['$', '('] .paren false rest
        | '$', '\x7b' :: '$' :: rest => pass ['$', '\x7b', '$'] .brace inQuotes rest
        | '$', '\x7b' :: rest => pass ['$', '\x7b'] .brace inQuotes rest
        | '(', rest => if closing = .paren then pass ['('] .paren false rest else step
        | '\x60', rest =>
            match rawBackquote rest with
            | some (body, after) => behind ('\x60' :: body ++ ['\x60']) after
            | none => .error openBackquote
        | '"', rest => if isArithmetic then step else pass ['"'] .quote true rest
        | '\'', rest =>
            if inQuotes then step
            else
              match upToQuote '\'' rest with
              | some (body, after) => behind ('\'' :: body ++ ['\'']) after
              | none => .error openQuote
        | _, _ => step

/-- Splits a text at what closes the part that was opened before it. -/
def closed (closing : Closing) (inQuotes : Bool) (cs : List Char) :
    Except String (List Char × List Char) :=
  upToClose closing (cs.length + 1) inQuotes cs

/-! ## Expansions -/

/-- What a mark behind a parameter makes of the text behind it. -/
def choice? : Char → Option Choice
  | '-' => some .fallback
  | '=' => some .assignment
  | '?' => some .complaint
  | '+' => some .replacement
  | _ => none

/-- The expansion that a parameter makes together with what is behind it. -/
def changed (name : List Char) : List Char → Expansion
  | [] => .parameter name
  | '%' :: '%' :: pattern => .cut name true true pattern
  | '%' :: pattern => .cut name true false pattern
  | '#' :: '#' :: pattern => .cut name false true pattern
  | '#' :: pattern => .cut name false false pattern
  | ':' :: c :: text =>
      match choice? c with
      | some choice => .choice name choice true text
      | none => .unknown
  | c :: text =>
      match choice? c with
      | some choice => .choice name choice false text
      | none => .unknown

/-- The expansion that the text between braces makes. -/
def bracedExpansion (body : List Char) : Expansion :=
  match body with
  | '#' :: c :: name =>
      if name.isEmpty && isSpecial c || isName (c :: name) || (c :: name).all Char.isDigit then
        .length (c :: name)
      else changed ['#'] (c :: name)
  | c :: rest =>
      if c.isDigit then changed (body.takeWhile Char.isDigit) (body.dropWhile Char.isDigit)
      else if isSpecial c then changed [c] rest
      else if isNameChar c then changed (body.takeWhile isNameChar) (body.dropWhile isNameChar)
      else .unknown
  | [] => .unknown

/-- The expansion behind a dollar sign, if there is one, and the rest. -/
def readExpansion (inQuotes : Bool) : List Char → Except String (Option Expansion × List Char)
  | '(' :: '(' :: rest => do
      let (body, after) ← closed (.arithmetic 0) true rest
      return (some (.arithmetic body), after)
  | '(' :: rest => do
      let (body, after) ← closed .paren false rest
      return (some (.output body), after)
  | '\x7b' :: '$' :: rest => do
      let (body, after) ← closed .brace inQuotes rest
      return (some (bracedExpansion ('$' :: body)), after)
  | '\x7b' :: rest => do
      let (body, after) ← closed .brace inQuotes rest
      return (some (bracedExpansion body), after)
  | c :: rest =>
      if isSpecial c then .ok (some (.parameter [c]), rest)
      else if isNameChar c then
        .ok (some (.parameter (c :: rest.takeWhile isNameChar)), rest.dropWhile isNameChar)
      else .ok (none, c :: rest)
  | [] => .ok (none, [])

/-! ## Words -/

/-- What a double quote is within a quoted text. -/
inductive QuoteRole where
  /-- The end of the text. -/
  | ends
  /-- Nothing. -/
  | dropped
  /-- A character like any other. -/
  | kept
deriving DecidableEq, Repr

/-- Reads a text as it stands between double quotes: up to the quote that ends it, or to
its end. -/
def readQuoted (role : QuoteRole) : Nat → List Char → Except String (Word × List Char)
  | 0, _ => .error openQuote
  | _ + 1, [] => if role = .ends then .error openQuote else .ok ([], [])
  | fuel + 1, '"' :: rest =>
      match role with
      | .ends => .ok ([], rest)
      | .dropped => readQuoted role fuel rest
      | .kept => do
          let (word, after) ← readQuoted role fuel rest
          return (.text true ['"'] :: word, after)
  | fuel + 1, '\\' :: c :: rest => do
      let (word, after) ← readQuoted role fuel rest
      if c = '\n' then return (word, after)
      else if c = '\\' || c = '$' || c = '\x60' || (c = '"' && role ≠ .kept)
          || (c = '\x7d' && role = .dropped) then
        return (.text true [c] :: word, after)
      else return (.text true ['\\', c] :: word, after)
  | fuel + 1, '$' :: rest => do
      let (e, next) ← readExpansion true rest
      let (word, after) ← readQuoted role fuel next
      return ((e.elim (.text true ['$']) (.expansion true ·)) :: word, after)
  | fuel + 1, '\x60' :: rest =>
      match upToBackquote rest with
      | none => .error openBackquote
      | some (script, next) => do
          let (word, after) ← readQuoted role fuel next
          return (.expansion true (.output script) :: word, after)
  | fuel + 1, c :: rest => do
      let (word, after) ← readQuoted role fuel rest
      return (.text true [c] :: word, after)

/-- Puts a character in front of a word. -/
def pushChar (c : Char) : Word → Word
  | .text false cs :: more => .text false (c :: cs) :: more
  | word => .text false [c] :: word

/-- Reads a word up to a character that ends it. -/
def readWord (ends : Char → Bool) : Nat → List Char → Except String (Word × List Char)
  | 0, _ => .error openQuote
  | _ + 1, [] => .ok ([], [])
  | fuel + 1, '\\' :: c :: rest => do
      let (word, after) ← readWord ends fuel rest
      return (if c = '\n' then word else .text true [c] :: word, after)
  | fuel + 1, '\'' :: rest =>
      match upToQuote '\'' rest with
      | none => .error openQuote
      | some (body, next) => do
          let (word, after) ← readWord ends fuel next
          return (.text true body :: word, after)
  | fuel + 1, '"' :: rest => do
      let (pieces, next) ← readQuoted .ends (rest.length + 1) rest
      let (word, after) ← readWord ends fuel next
      /- Without arguments, all of them in quotes are no field. -/
      let isAll := pieces == [.expansion true (.parameter ['@'])]
      return (if isAll then pieces ++ word else .text true [] :: pieces ++ word, after)
  | fuel + 1, '$' :: rest => do
      let (e, next) ← readExpansion false rest
      let (word, after) ← readWord ends fuel next
      return ((e.elim (.text true ['$']) (.expansion false ·)) :: word, after)
  | fuel + 1, '\x60' :: rest =>
      match upToBackquote rest with
      | none => .error openBackquote
      | some (script, next) => do
          let (word, after) ← readWord ends fuel next
          return (.expansion false (.output script) :: word, after)
  | fuel + 1, c :: rest =>
      if ends c then .ok ([], c :: rest)
      else do
        let (word, after) ← readWord ends fuel rest
        return (pushChar c word, after)

/-- The pieces of a text between double quotes. -/
def quotedPieces (cs : List Char) : Word :=
  match readQuoted .dropped (cs.length + 1) cs with
  | .ok (word, _) => word
  | .error _ => [.text true cs]

/-- The pieces of a text in which a double quote is a character like any other. -/
def plainPieces (cs : List Char) : Word :=
  match readQuoted .kept (cs.length + 1) cs with
  | .ok (word, _) => word
  | .error _ => [.text true cs]

/-- The pieces of a text that is no word of its own, such as a fallback. -/
def loosePieces (cs : List Char) : Word :=
  match readWord (fun _ => false) (cs.length + 1) cs with
  | .ok (word, _) => word.map fun
      | .text false cs => .loose cs
      | piece => piece
  | .error _ => [.loose cs]

/-- The pieces of a pattern. -/
def patternPieces (cs : List Char) : Word :=
  match readWord (fun _ => false) (cs.length + 1) cs with
  | .ok (word, _) => word
  | .error _ => [.text false cs]

/-! ## Tokens -/

/-- The redirection that a text begins with, if it begins with one. -/
def redirection? (stream : Option Nat) : List Char → Option (Token × List Char)
  | '>' :: '&' :: rest => some (.redirect (stream.getD 1) .duplicate, rest)
  | '>' :: '>' :: rest => some (.redirect (stream.getD 1) .append, rest)
  | '>' :: '|' :: rest => some (.redirect (stream.getD 1) .write, rest)
  | '>' :: rest => some (.redirect (stream.getD 1) .write, rest)
  | '<' :: '&' :: rest => some (.redirect (stream.getD 0) .duplicate, rest)
  | '<' :: rest => some (.redirect (stream.getD 0) .read, rest)
  | _ => none

/-- The mark that a text begins with, if it begins with one. -/
def mark? : List Char → Option (Mark × List Char)
  | '&' :: '&' :: rest => some (.andThen, rest)
  | '|' :: '|' :: rest => some (.orElse, rest)
  | '|' :: rest => some (.pipe, rest)
  | ';' :: ';' :: rest => some (.caseEnd, rest)
  | '&' :: rest => some (.background, rest)
  | ';' :: rest => some (.semicolon, rest)
  | '(' :: rest => some (.parenOpen, rest)
  | ')' :: rest => some (.parenClose, rest)
  | _ => none

/-- A text in the script that a command reads. -/
structure HereText where
  stream : Nat
  /-- Whether tabs at the beginning of lines are dropped. -/
  dropsTabs : Bool
  rest : List Char

/-- The beginning of a text in the script, if there is one. -/
def hereText? : List Char → Option HereText
  | '<' :: '<' :: '-' :: rest => some ⟨0, true, rest⟩
  | '<' :: '<' :: rest => some ⟨0, false, rest⟩
  | c :: '<' :: '<' :: rest =>
      if c.isDigit then some ⟨c.toNat - 0x30, false, rest⟩ else none
  | _ => none

/-- The characters of a word, and whether some of it is quoted. -/
def rawText (word : Word) : List Char × Bool :=
  (word.flatMap fun | .text _ cs | .loose cs => cs | .expansion _ _ => [],
    word.any fun | .text quoted _ => quoted | _ => false)

/-- Splits lines off up to the one that ends a text in the script. -/
def upToLine (dropsTabs : Bool) (last : List Char) : Nat → List Char → List Char × List Char
  | 0, cs => (cs, [])
  | _ + 1, [] => ([], [])
  | fuel + 1, cs =>
      let line := cs.takeWhile (· ≠ '\n')
      let rest := cs.drop (line.length + 1)
      let shown := if dropsTabs then line.dropWhile (· = '\t') else line
      if shown = last then ([], rest)
      else if line.length = cs.length then (shown, [])
      else
        let (more, after) := upToLine dropsTabs last fuel rest
        (shown ++ '\n' :: more, after)

/-- The tokens of a script from a line on. -/
def tokens : Nat → Nat → List Char → List PlacedToken
  | 0, line, _ | _ + 1, line, [] => [⟨.endOfScript, line⟩]
  | fuel + 1, line, c :: rest =>
      if isGap c then tokens fuel line rest
      else if c = '\n' then ⟨.newLine, line⟩ :: tokens fuel (line + 1) rest
      else if c = '\\' && rest.head? = some '\n' then tokens fuel (line + 1) (rest.drop 1)
      else if c = '#' then tokens fuel line (rest.dropWhile (· ≠ '\n'))
      else
        match mark? (c :: rest), hereText? (c :: rest) with
        | some (mark, after), _ => ⟨.mark mark, line⟩ :: tokens fuel line after
        | none, some here =>
            match readWord endsWord (here.rest.length + 1) (here.rest.dropWhile isGap) with
            | .error reason => [⟨.broken reason, line + (c :: rest).count '\n'⟩]
            | .ok ([], after) => ⟨.redirect here.stream .here, line⟩ :: tokens fuel line after
            | .ok (last, after) =>
                let (name, isQuoted) := rawText last
                let thisLine := after.takeWhile (· ≠ '\n')
                let below := after.drop (thisLine.length + 1)
                let (body, next) := upToLine here.dropsTabs name (below.length + 1) below
                let text : Word :=
                  .text true [] :: if isQuoted then [.text true body] else plainPieces body
                ⟨.redirect here.stream .here, line⟩ :: ⟨.word text, line⟩
                  :: tokens fuel line (if thisLine.length = after.length then thisLine
                    else thisLine ++ '\n' :: next)
        | none, none =>
            let numbered :=
              if c.isDigit then redirection? (some (c.toNat - 48)) rest
              else redirection? none (c :: rest)
            match numbered with
            | some (token, after) => ⟨token, line⟩ :: tokens fuel line after
            | none =>
                match readWord endsWord (rest.length + 2) (c :: rest) with
                | .error reason => [⟨.broken reason, line + (c :: rest).count '\n'⟩]
                | .ok (word, after) =>
                    let read := (c :: rest).take (rest.length + 1 - after.length)
                    ⟨.word word, line⟩ :: tokens fuel (line + read.count '\n') after

/-- The tokens of a script. -/
def tokenize (script : List Char) : List PlacedToken :=
  tokens (2 * script.length + 2) 1 script

end SnapshotEngine.Shell
