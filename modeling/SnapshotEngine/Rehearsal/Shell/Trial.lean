import SnapshotEngine.Rehearsal.Shell.Arithmetic

/-!
# Tests of words

`test` and `[` compare texts and numbers and ask after files.  Parts are joined by
`-a`, which binds more tightly, and `-o`, turned around by an exclamation mark and
grouped by parentheses.  A word that could be an operator is one only where an
operator can stand.
-/

namespace SnapshotEngine.Shell

/-- What kind of thing a path leads to. -/
inductive FileKind where
  | directory
  | device
  | regular (isEmpty : Bool)
deriving DecidableEq, Repr, Inhabited

/-- What a word is in a test. -/
inductive TrialToken where
  | finished
  | operand
  | unary (operator : String)
  | binary (operator : String)
  | negation
  | conjunction
  | disjunction
  | opening
  | closing
deriving DecidableEq, Repr, Inhabited

namespace Trial

/-- The operators on one word. -/
def unaryOperators : List String :=
  ["-r", "-w", "-x", "-e", "-f", "-d", "-c", "-b", "-p", "-u", "-g", "-k", "-s", "-t", "-z",
    "-n", "-h", "-O", "-G", "-L", "-S"]

/-- The operators between two words. -/
def binaryOperators : List String :=
  ["=", "!=", "<", ">", "-eq", "-ne", "-ge", "-gt", "-le", "-lt", "-nt", "-ot", "-ef"]

/-- What a word is where an operator can stand. -/
def operator? (word : List Char) : Option TrialToken :=
  let text := String.ofList word
  if unaryOperators.contains text then some (.unary text)
  else if binaryOperators.contains text then some (.binary text)
  else
    match text with
    | "!" => some .negation
    | "-a" => some .conjunction
    | "-o" => some .disjunction
    | "(" => some .opening
    | ")" => some .closing
    | _ => none

/-- Whether a word is an operator between two words. -/
def isBinary (word : List Char) : Bool :=
  match operator? word with
  | some (.binary _) => true
  | _ => false

/-- What the first of some words is. -/
def token : List (List Char) → TrialToken
  | [] => .finished
  | word :: rest =>
      match operator? word, rest with
      | some (.unary _), [] => .operand
      | some (.unary name), [_] => .unary name
      | some (.unary name), next :: _ => if isBinary next then .operand else .unary name
      | some .opening, [] => .operand
      | some token, _ => token
      | none, _ => .operand

/-- The number that a word is. -/
def number (word : List Char) : Except String Int :=
  match integer? word with
  | some n => .ok n
  | none => .error ("Illegal number: " ++ String.ofList word)

/-- What an operator says of two words. -/
def compare (operator : String) (a b : List Char) : Except String Bool :=
  let numbers (f : Int → Int → Bool) : Except String Bool := do
    let n ← number a
    let m ← number b
    return f n m
  match operator with
  | "=" => .ok (a = b)
  | "!=" => .ok (a ≠ b)
  | "<" => .ok (String.ofList a < String.ofList b)
  | ">" => .ok (String.ofList b < String.ofList a)
  | "-eq" => numbers fun n m => n = m
  | "-ne" => numbers fun n m => n ≠ m
  | "-ge" => numbers fun n m => m ≤ n
  | "-gt" => numbers fun n m => m < n
  | "-le" => numbers fun n m => n ≤ m
  | "-lt" => numbers fun n m => n < m
  | _ => .ok false

/-- What an operator says of one word. -/
def examine (kindOf : List Char → Option FileKind) (operator : String) (word : List Char) :
    Except String Bool :=
  let kind := kindOf word
  match operator with
  | "-z" => .ok word.isEmpty
  | "-n" => .ok (!word.isEmpty)
  | "-e" | "-r" | "-w" | "-O" | "-G" => .ok kind.isSome
  | "-x" | "-d" => .ok (kind = some .directory)
  | "-f" => .ok (kind = some (.regular true) || kind = some (.regular false))
  | "-s" => .ok (kind = some .directory || kind = some (.regular false))
  | "-c" => .ok (kind = some .device)
  | "-t" => do
      let _ ← number word
      return false
  | _ => .ok false

/-- The complaint that a word is missing behind an operator. -/
def missing (operator : String) : String := operator ++ ": argument expected"

mutual

/-- Reads parts that are joined by `-o`; what is returned last begins with the last
word that belongs to them. -/
def readEither (kindOf : List Char → Option FileKind) :
    Nat → TrialToken → List (List Char) → Except String (Bool × List (List Char))
  | 0, _, ws => .ok (false, ws)
  | fuel + 1, first, ws => do
      let (holds, ws) ← readBoth kindOf fuel first ws
      if token (ws.drop 1) = .disjunction then
        let (more, ws) ← readEither kindOf fuel (token (ws.drop 2)) (ws.drop 2)
        return (holds || more, ws)
      else return (holds, ws)

/-- Reads parts that are joined by `-a`. -/
def readBoth (kindOf : List Char → Option FileKind) :
    Nat → TrialToken → List (List Char) → Except String (Bool × List (List Char))
  | 0, _, ws => .ok (false, ws)
  | fuel + 1, first, ws => do
      let (holds, ws) ← readNegated kindOf fuel first ws
      if token (ws.drop 1) = .conjunction then
        let (more, ws) ← readBoth kindOf fuel (token (ws.drop 2)) (ws.drop 2)
        return (holds && more, ws)
      else return (holds, ws)

/-- Reads a part with the exclamation marks in front of it. -/
def readNegated (kindOf : List Char → Option FileKind) :
    Nat → TrialToken → List (List Char) → Except String (Bool × List (List Char))
  | 0, _, ws => .ok (false, ws)
  | fuel + 1, first, ws =>
      if first = .negation then do
        let next := token (ws.drop 1)
        let (holds, ws) ← readNegated kindOf fuel next (if next = .finished then ws else ws.drop 1)
        return (!holds, ws)
      else readPart kindOf fuel first ws

/-- Reads a part. -/
def readPart (kindOf : List Char → Option FileKind) :
    Nat → TrialToken → List (List Char) → Except String (Bool × List (List Char))
  | 0, _, ws => .ok (false, ws)
  | fuel + 1, first, ws =>
      match first, ws with
      | .finished, _ => .ok (false, ws)
      | .opening, _ =>
          if token (ws.drop 1) = .closing then .ok (false, ws.drop 1)
          else do
            let (holds, ws) ← readEither kindOf fuel (token (ws.drop 1)) (ws.drop 1)
            if token (ws.drop 1) = .closing then return (holds, ws.drop 1)
            else throw "closing paren expected"
      | .unary operator, _ :: word :: rest => do
          return (← examine kindOf operator word, word :: rest)
      | .unary operator, _ => .error (missing operator)
      | _, a :: operator :: rest =>
          match token (operator :: rest), rest with
          | .binary name, b :: rest => do return (← compare name a b, b :: rest)
          | .binary name, [] => .error (missing name)
          | _, _ => .ok (!a.isEmpty, ws)
      | _, a :: _ => .ok (!a.isEmpty, ws)
      | _, [] => .ok (false, ws)

end

/-- Reads a whole test. -/
def read (kindOf : List Char → Option FileKind) (first : TrialToken) (ws : List (List Char)) :
    Except String Bool := do
  let (holds, rest) ← readEither kindOf (6 * ws.length + 6) first ws
  match rest with
  | word :: _ :: _ =>
      let text := String.ofList word
      throw (if text.isEmpty then "unexpected operator" else text ++ ": unexpected operator")
  | _ => return holds

/-- What a test comes to.  Three and four words have a meaning of their own. -/
def trial (kindOf : List Char → Option FileKind) : List (List Char) → Except String Bool
  | [] => .ok false
  | ws@([a, operator, b]) =>
      if isBinary operator then read kindOf .operand ws
      else if a = ['('] && b = [')'] then read kindOf (token [operator]) [operator]
      else if a = ['!'] then (trial kindOf [operator, b]).map (!·)
      else read kindOf (token ws) ws
  | ws@([a, b, c, d]) =>
      if a = ['('] && d = [')'] then read kindOf (token [b, c]) [b, c]
      else if a = ['!'] then (trial kindOf [b, c, d]).map (!·)
      else read kindOf (token ws) ws
  | ws => read kindOf (token ws) ws

end Trial

end SnapshotEngine.Shell
