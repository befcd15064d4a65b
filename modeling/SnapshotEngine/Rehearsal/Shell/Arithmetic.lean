import SnapshotEngine.Rehearsal.Shell.Token
import SnapshotEngine.Table

/-!
# Arithmetic of the shell

Expressions over whole numbers of 64 bits: literals, variables, assignments,
choices, and the usual operators with their usual precedence.  What need not be
known, such as the right side of `1 || x`, is read but has no effect.
-/

namespace SnapshotEngine.Shell

/-- The variables of a shell. -/
abbrev Variables := Table (List Char) (List Char)

/-- Why an expression has no value. -/
inductive ArithmeticError where
  | division
  /-- Something else is missing. -/
  | missing (what : String)
  /-- A variable holds no number. -/
  | illegal (text : List Char)
deriving DecidableEq, Repr

/-- The complaint about an expression. -/
def ArithmeticError.text (whole : List Char) : ArithmeticError → String
  | .illegal text => "Illegal number: " ++ String.ofList text
  | .division => "arithmetic expression: division by zero: \"" ++ String.ofList whole ++ "\""
  | .missing what =>
      "arithmetic expression: expecting " ++ what ++ ": \"" ++ String.ofList whole ++ "\""

/-- A whole number as its 64 bits show it. -/
def wrap (n : Int) : Int := Int.bmod n (Nat.pow 2 64)

/-- The greatest number of 64 bits. -/
def greatest : Nat := Nat.pow 2 63 - 1

/-- White space around numbers. -/
def isSpace (c : Char) : Bool := c = ' ' || ('\t' ≤ c && c ≤ '\r')

/-- A text without the white space at its beginning. -/
def skipSpaces (cs : List Char) : List Char := cs.dropWhile isSpace

/-- What a digit counts; a character that is no digit counts too much. -/
def digitValue (c : Char) : Nat :=
  if c.isDigit then c.toNat - 48
  else if c.isLower then c.toNat - 87
  else if c.isUpper then c.toNat - 55
  else 36

/-- The number of the digits at the beginning, and what is behind them. -/
def readDigits (base : Nat) (cs : List Char) : Nat × List Char :=
  let isIn (c : Char) : Bool := digitValue c < base
  ((cs.takeWhile isIn).foldl (fun n c => n * base + digitValue c) 0, cs.dropWhile isIn)

/-- The number that digits stand for in a base. -/
def digitsIn (base : Nat) (cs : List Char) : Option Nat :=
  match cs, readDigits base cs with
  | _ :: _, (n, []) => some n
  | _, _ => none

/-- The number of the literal at the beginning, hexadecimal, octal or decimal, and
what is behind it. -/
def readLiteral : List Char → Nat × List Char
  | '0' :: x :: d :: rest =>
      if (x = 'x' || x = 'X') && digitValue d < 16 then readDigits 16 (d :: rest)
      else readDigits 8 ('0' :: x :: d :: rest)
  | '0' :: rest => readDigits 8 ('0' :: rest)
  | cs => readDigits 10 cs

/-- Takes a sign off the beginning, and says whether it is a minus. -/
def readSign : List Char → Bool × List Char
  | '-' :: rest => (true, rest)
  | '+' :: rest => (false, rest)
  | cs => (false, cs)

/-- The number in a text with a sign and white space around it, if there is one and
it fits in 64 bits. -/
def integer? (cs : List Char) : Option Int :=
  let (isNegative, digits) := readSign (skipSpaces cs)
  let (n, rest) := readDigits 10 digits
  if !(digits.headD ' ').isDigit || !(skipSpaces rest).isEmpty then none
  else if isNegative then if n ≤ greatest + 1 then some (-(n : Int)) else none
  else if n ≤ greatest then some n else none

/-- The number that a variable holds; white space alone counts as zero. -/
def heldNumber? (cs : List Char) : Option Int :=
  let (isNegative, digits) := readSign (skipSpaces cs)
  let (n, rest) := readLiteral digits
  if (skipSpaces cs).isEmpty then some 0
  else if !(digits.headD ' ').isDigit || !(skipSpaces rest).isEmpty then none
  else if isNegative then if n ≤ greatest + 1 then some (-(n : Int)) else none
  else if n ≤ greatest then some n else none

/-- The count that a word names, if it names one. -/
def count? (cs : List Char) : Option Nat :=
  match integer? cs with
  | some n => if 0 ≤ n && n < Nat.pow 2 31 then some n.toNat else none
  | none => none

/-- The text of a number. -/
def ofInteger (n : Int) : List Char :=
  if n < 0 then '-' :: Nat.toDigits 10 n.natAbs else Nat.toDigits 10 n.natAbs

/-- The number that a variable holds. -/
def valueOf (vars : Variables) (name : List Char) : Except ArithmeticError Int :=
  let value := (vars.get? name).getD []
  match heldNumber? value with
  | some n => .ok n
  | none => .error (.illegal value)

/-- The truth value of a test as a number. -/
def ofTruth (b : Bool) : Int := if b then 1 else 0

/-- An operator between two numbers. -/
structure Operator where
  mark : List Char
  precedence : Nat
  /-- The value; nothing where there is none. -/
  apply : Int → Int → Option Int

/-- Combines the bits of two numbers. -/
def onBits (f : Nat → Nat → Nat) (a b : Int) : Option Int :=
  some (wrap (f (a % Nat.pow 2 64).toNat (b % Nat.pow 2 64).toNat : Nat))

/-- The operators between two numbers, longer marks before shorter ones. -/
def operators : List Operator := [
  ⟨['|', '|'], 1, fun a b => some (ofTruth (a ≠ 0 || b ≠ 0))⟩,
  ⟨['&', '&'], 2, fun a b => some (ofTruth (a ≠ 0 && b ≠ 0))⟩,
  ⟨['=', '='], 6, fun a b => some (ofTruth (a = b))⟩,
  ⟨['!', '='], 6, fun a b => some (ofTruth (a ≠ b))⟩,
  ⟨['<', '<'], 8, fun a b => some (wrap (a * Nat.pow 2 (b % 64).toNat))⟩,
  ⟨['>', '>'], 8, fun a b => some (a / Nat.pow 2 (b % 64).toNat)⟩,
  ⟨['<', '='], 7, fun a b => some (ofTruth (a ≤ b))⟩,
  ⟨['>', '='], 7, fun a b => some (ofTruth (b ≤ a))⟩,
  ⟨['<'], 7, fun a b => some (ofTruth (a < b))⟩,
  ⟨['>'], 7, fun a b => some (ofTruth (b < a))⟩,
  ⟨['|'], 3, onBits (· ||| ·)⟩,
  ⟨['^'], 4, onBits (· ^^^ ·)⟩,
  ⟨['&'], 5, onBits (· &&& ·)⟩,
  ⟨['+'], 9, fun a b => some (wrap (a + b))⟩,
  ⟨['-'], 9, fun a b => some (wrap (a - b))⟩,
  ⟨['*'], 10, fun a b => some (wrap (a * b))⟩,
  ⟨['/'], 10, fun a b => if b = 0 then none else some (wrap (Int.tdiv a b))⟩,
  ⟨['%'], 10, fun a b => if b = 0 then none else some (Int.tmod a b)⟩]

/-- The marks of operators that an assignment may be made with. -/
def assigning : List (List Char) :=
  [['<', '<'], ['>', '>'], ['|'], ['^'], ['&'], ['+'], ['-'], ['*'], ['/'], ['%']]

/-- The mark of the operator that an assignment begins with, which is empty for a
plain one, and what is behind the assignment. -/
def assignment (cs : List Char) : Option (List Char × List Char) :=
  match cs with
  | '=' :: '=' :: _ => none
  | '=' :: rest => some ([], rest)
  | _ =>
      (assigning.find? fun mark => (mark ++ ['=']).isPrefixOf cs).map fun mark =>
        (mark, cs.drop (mark.length + 1))

/-- The operator that a text begins with. -/
def operator? (cs : List Char) : Option Operator :=
  if (assignment cs).isSome then none else operators.find? fun o => o.mark.isPrefixOf cs

/-- The value of an operation; where values do not matter, that of the right side. -/
def Operator.value (o : Operator) (matters : Bool) (a b : Int) : Except ArithmeticError Int :=
  if matters then
    match o.apply a b with
    | some n => .ok n
    | none => .error .division
  else .ok b

/-- Whether the right side of an operator matters behind a value. -/
def Operator.needsRight (o : Operator) (a : Int) : Bool :=
  if o.precedence = 1 then a = 0 else if o.precedence = 2 then a ≠ 0 else true

/-- What was read: a value, the variables after it, and the rest. -/
abbrev Evaluated := Int × Variables × List Char

mutual

/-- Reads an expression: an assignment or a choice. -/
def readExpression : Nat → Bool → Variables → List Char → Except ArithmeticError Evaluated
  | 0, _, _, _ => .error (.missing "primary")
  | fuel + 1, matters, vars, cs =>
      let cs := skipSpaces cs
      let name := cs.takeWhile isNameChar
      match assignment (skipSpaces (cs.drop name.length)), isName name with
      | some (mark, rest), true => do
          let (n, vars, rest) ← readExpression fuel matters vars rest
          if !matters then return (n, vars, rest)
          else
            match operators.find? fun o => o.mark == mark with
            | some o =>
                let n ← o.value true (← valueOf vars name) n
                return (n, vars.insert name (ofInteger n), rest)
            | none => return (n, vars.insert name (ofInteger n), rest)
      | _, _ => readChoice fuel matters vars cs

/-- Reads a choice between two values. -/
def readChoice : Nat → Bool → Variables → List Char → Except ArithmeticError Evaluated
  | 0, _, _, _ => .error (.missing "primary")
  | fuel + 1, matters, vars, cs => do
      let (test, vars, rest) ← readOperation fuel matters vars 1 cs
      match skipSpaces rest with
      | '?' :: rest =>
          let (yes, vars, rest) ← readExpression fuel (matters && test ≠ 0) vars rest
          match skipSpaces rest with
          | ':' :: rest =>
              let (no, vars, rest) ← readChoice fuel (matters && test = 0) vars rest
              return (if test ≠ 0 then yes else no, vars, rest)
          | _ => throw (.missing "':'")
      | rest => return (test, vars, rest)

/-- Reads a number, a variable, or an expression in parentheses, with the signs
before it. -/
def readAtom : Nat → Bool → Variables → List Char → Except ArithmeticError Evaluated
  | 0, _, _, _ => .error (.missing "primary")
  | fuel + 1, matters, vars, cs =>
      match skipSpaces cs with
      | '-' :: rest => do
          let (n, vars, rest) ← readAtom fuel matters vars rest
          return (wrap (-n), vars, rest)
      | '+' :: rest => readAtom fuel matters vars rest
      | '!' :: rest => do
          let (n, vars, rest) ← readAtom fuel matters vars rest
          return (ofTruth (n = 0), vars, rest)
      | '~' :: rest => do
          let (n, vars, rest) ← readAtom fuel matters vars rest
          return (-n - 1, vars, rest)
      | '(' :: rest => do
          let (n, vars, rest) ← readExpression fuel matters vars rest
          match skipSpaces rest with
          | ')' :: rest => return (n, vars, rest)
          | _ => throw (.missing "')'")
      | c :: rest =>
          if c.isDigit then
            let (n, rest) := readLiteral (c :: rest)
            .ok (min n greatest, vars, rest)
          else if isNameChar c then do
            let n ← if matters then valueOf vars (c :: rest.takeWhile isNameChar) else .ok 0
            return (n, vars, rest.dropWhile isNameChar)
          else .error (.missing "primary")
      | [] => .error (.missing "primary")

/-- Reads operations of at least the given precedence. -/
def readOperation : Nat → Bool → Variables → Nat → List Char → Except ArithmeticError Evaluated
  | 0, _, _, _, _ => .error (.missing "primary")
  | fuel + 1, matters, vars, precedence, cs => do
      let (n, vars, rest) ← readAtom fuel matters vars cs
      readMore fuel matters vars precedence n rest

/-- Reads further operations on a number. -/
def readMore : Nat → Bool → Variables → Nat → Int → List Char → Except ArithmeticError Evaluated
  | 0, _, _, _, _, _ => .error (.missing "primary")
  | fuel + 1, matters, vars, precedence, n, cs =>
      match operator? (skipSpaces cs) with
      | none => .ok (n, vars, cs)
      | some o =>
          if o.precedence < precedence then .ok (n, vars, cs)
          else do
            let (m, vars, rest) ← readOperation fuel (matters && o.needsRight n) vars
              (o.precedence + 1) ((skipSpaces cs).drop o.mark.length)
            readMore fuel matters vars precedence (← o.value matters n m) rest

end

/-- The value of an expression, and the variables after it. -/
def evaluate (vars : Variables) (cs : List Char) : Except ArithmeticError (Int × Variables) := do
  let (n, vars, rest) ← readExpression (6 * cs.length + 6) true vars cs
  if (skipSpaces rest).isEmpty then return (n, vars) else throw (.missing "EOF")

end SnapshotEngine.Shell
