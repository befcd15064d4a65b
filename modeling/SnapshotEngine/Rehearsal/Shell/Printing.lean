import SnapshotEngine.Rehearsal.Shell.Arithmetic
import SnapshotEngine.Text.Decimal

/-!
# What the shell prints

`echo` prints its words with spaces between them and a line break at the end,
and `printf` fills a format in, over and over while words are left.  Both know
escapes that begin with a backslash; a code of up to three octal digits stands
for a byte.
-/

namespace SnapshotEngine.Shell

/-- Whether a character is an octal digit. -/
def isOctal (c : Char) : Bool := decide ('0' ≤ c ∧ c ≤ '7')

/-- Takes a code of at most `count` octal digits off the beginning. -/
def readOctal : Nat → Nat → List Char → Nat × List Char
  | 0, n, cs => (n, cs)
  | _ + 1, n, [] => (n, [])
  | count + 1, n, c :: cs =>
      if isOctal c then readOctal count (n * 8 + (c.toNat - 48)) cs else (n, c :: cs)

/-- The character that a letter behind a backslash stands for. -/
def letterEscape? : Char → Option Char
  | 'a' => some '\x07'
  | 'b' => some '\x08'
  | 'e' => some '\x1b'
  | 'f' => some '\x0c'
  | 'n' => some '\n'
  | 'r' => some '\r'
  | 't' => some '\t'
  | 'v' => some '\x0b'
  | '\\' => some '\\'
  | _ => none

/-- The text of a word in which escapes count, and whether printing goes on
after it; there a code may be written with a zero in front. -/
def unescapeWord : Nat → List Char → List Char × Bool
  | 0, cs => (cs, true)
  | _ + 1, [] => ([], true)
  | _ + 1, '\\' :: 'c' :: _ => ([], false)
  | fuel + 1, '\\' :: '0' :: rest =>
      let (n, after) := readOctal 3 0 rest
      let (more, goesOn) := unescapeWord fuel after
      (Char.ofNat (n % 256) :: more, goesOn)
  | fuel + 1, '\\' :: c :: rest =>
      let (n, after) := if isOctal c then readOctal 3 0 (c :: rest) else (0, rest)
      let (more, goesOn) := unescapeWord fuel after
      if isOctal c then (Char.ofNat (n % 256) :: more, goesOn)
      else match letterEscape? c with
      | some plain => (plain :: more, goesOn)
      | none => ('\\' :: c :: more, goesOn)
  | fuel + 1, c :: rest =>
      let (more, goesOn) := unescapeWord fuel rest
      (c :: more, goesOn)

/-- What `echo` prints. -/
def echo (words : List (List Char)) : List Char :=
  let (lineBreak, words) :=
    match words with
    | ['-', 'n'] :: rest => (false, rest)
    | _ => (true, words)
  let body := List.intercalate [' '] words
  let (shown, goesOn) := unescapeWord (body.length + 1) body
  if lineBreak && goesOn then shown ++ ['\n'] else shown

/-! ## Numbers with a fraction -/

/-- The quotient of two numbers, rounded; of two that are equally near the even one. -/
def roundedQuotient (a b : Nat) : Nat :=
  let q := a / b
  let twice := 2 * (a % b)
  if b < twice || (b = twice && q % 2 = 1) then q + 1 else q

/-- The floating-point number next to a decimal one, as a quotient. -/
def floating (d : Decimal) : Nat × Nat :=
  let top := d.coefficient * Nat.pow 10 d.exponent.toNat
  let bottom := Nat.pow 10 (-d.exponent).toNat
  if top = 0 then (0, 1)
  else
    let shift : Int := 54 - ((top.log2 : Int) - bottom.log2)
    let top := top * Nat.pow 2 shift.toNat
    let bottom := bottom * Nat.pow 2 (-shift).toNat
    let m := Decimal.nearest (2 * (top / bottom) + if top % bottom = 0 then 0 else 1)
    (m * Nat.pow 2 (-(shift + 1)).toNat, Nat.pow 2 (shift + 1).toNat)

/-- Digits with a full stop before the last ones. -/
def withFraction (places n : Nat) : List Char :=
  let digits := Nat.toDigits 10 n
  let digits := List.replicate (places + 1 - digits.length) '0' ++ digits
  let whole := digits.take (digits.length - places)
  if places = 0 then whole else whole ++ '.' :: digits.drop (digits.length - places)

/-- The power of ten that a quotient reaches, if it is not zero. -/
def magnitude (a b : Nat) : Int :=
  let guess : Int := (Nat.toDigits 10 a).length - (Nat.toDigits 10 b).length
  if a * Nat.pow 10 (-guess).toNat < b * Nat.pow 10 guess.toNat then guess - 1 else guess

/-- The digits of a quotient that is rounded to one digit and the given number of
places, and its power of ten. -/
def leading (places : Nat) (a b : Nat) : Nat × Int :=
  if a = 0 then (0, 0)
  else
    let power := magnitude a b
    let shift : Int := places - power
    let n := roundedQuotient (a * Nat.pow 10 shift.toNat) (b * Nat.pow 10 (-shift).toNat)
    if Nat.pow 10 (places + 1) ≤ n then (n / 10, power + 1) else (n, power)

/-- A number with a power of ten behind it. -/
def withPower (mark : Char) (mantissa : List Char) (power : Int) : List Char :=
  let digits := Nat.toDigits 10 power.natAbs
  mantissa ++ mark :: (if power < 0 then '-' else '+') ::
    (List.replicate (2 - digits.length) '0' ++ digits)

/-- Digits without zeros at the end of their fraction. -/
def withoutZeros (cs : List Char) : List Char :=
  if cs.contains '.' then
    ((cs.reverse.dropWhile (· = '0')).dropWhile (· = '.')).reverse
  else cs

/-- A number with a fraction as a directive shows it. -/
def showFraction (directive : Char) (precision : Nat) (d : Decimal) : List Char :=
  let (a, b) := floating d
  let mark := if directive.isUpper then 'E' else 'e'
  match directive.toLower with
  | 'e' =>
      let (n, power) := leading precision a b
      withPower mark (withFraction precision n) power
  | 'g' =>
      let places := max precision 1 - 1
      let (n, power) := leading places a b
      if power < -4 || (places : Int) < power then
        withPower mark (withoutZeros (withFraction places n)) power
      else
        let places := (places - power).toNat
        withoutZeros (withFraction places (roundedQuotient (a * Nat.pow 10 places) b))
  | _ => withFraction precision (roundedQuotient (a * Nat.pow 10 precision) b)

/-- The number with a fraction at the beginning of a text, and what is behind it. -/
def readFraction (cs : List Char) : Decimal × List Char :=
  let whole := cs.takeWhile Char.isDigit
  let rest := cs.drop whole.length
  let fraction := if rest.head? = some '.' then (rest.drop 1).takeWhile Char.isDigit else []
  let rest :=
    if rest.head? = some '.' && !(whole ++ fraction).isEmpty then rest.drop (fraction.length + 1)
    else rest
  let mantissa := (readDigits 10 (whole ++ fraction)).1
  let plain : Decimal × List Char := (⟨mantissa, -(fraction.length : Int)⟩, rest)
  match rest with
  | mark :: more =>
      let (isNegative, digits) := readSign more
      if (mark = 'e' || mark = 'E') && (digits.headD ' ').isDigit && !(whole ++ fraction).isEmpty
      then
        let (n, rest) := readDigits 10 digits
        let power : Int := min n 400
        (⟨mantissa, (if isNegative then -power else power) - fraction.length⟩, rest)
      else plain
  | [] => plain

/-! ## Formats -/

/-- How a value is to be shown: its flags, its least width, and its precision. -/
structure Layout where
  flags : List Char
  width : Nat
  precision : Option Nat

/-- A text filled up to its width. -/
def fill (layout : Layout) (zeros : Bool) (sign body : List Char) : List Char :=
  let missing := layout.width - (sign.length + body.length)
  if layout.flags.contains '-' then sign ++ body ++ List.replicate missing ' '
  else if zeros && layout.flags.contains '0' then sign ++ List.replicate missing '0' ++ body
  else List.replicate missing ' ' ++ sign ++ body

/-- The sign that a number is shown with. -/
def shownSign (layout : Layout) (isNegative : Bool) : List Char :=
  if isNegative then ['-']
  else if layout.flags.contains '+' then ['+']
  else if layout.flags.contains ' ' then [' ']
  else []

/-- Digits with zeros in front, as many as the precision asks for. -/
def padded (layout : Layout) (digits : List Char) : List Char :=
  let digits := if layout.precision = some 0 && digits = ['0'] then [] else digits
  List.replicate (layout.precision.getD 1 - digits.length) '0' ++ digits

/-- A number with its sign, as a directive shows it. -/
def showNumber (layout : Layout) (n : Int) : List Char :=
  fill layout layout.precision.isNone (shownSign layout (n < 0))
    (padded layout (Nat.toDigits 10 n.natAbs))

/-- The bits of a number in a base. -/
def showBits (layout : Layout) (base : Nat) (upper : Bool) (n : Int) : List Char :=
  let bits := (n % Nat.pow 2 64).toNat
  let digits := Nat.toDigits base bits
  let digits := if upper then digits.map Char.toUpper else digits
  let isMarked := layout.flags.contains '#' && bits ≠ 0
  let lead :=
    if isMarked && base = 16 then (if upper then ['0', 'X'] else ['0', 'x'])
    else if isMarked && base = 8 then ['0']
    else []
  fill layout layout.precision.isNone lead (padded layout digits)

/-- What a format has printed. -/
structure Printed where
  shown : List Char
  /-- The words that are left. -/
  left : List (List Char)
  complaints : List String
  code : Nat
  /-- Whether printing goes on. -/
  goesOn : Bool

namespace Printed

/-- Puts a text in front. -/
def after (cs : List Char) (p : Printed) : Printed := { p with shown := cs ++ p.shown }

/-- Puts a complaint in front, if there is one. -/
def since (complaint : Option String) (p : Printed) : Printed :=
  match complaint with
  | none => p
  | some text => { p with complaints := text :: p.complaints, code := max 1 p.code }

/-- Nothing, and the end of printing. -/
def stop (left : List (List Char)) (complaints : List String) (code : Nat) : Printed :=
  ⟨[], left, complaints, code, false⟩

end Printed

/-- The complaint about a word of which a number is the beginning, if it is one. -/
def numberComplaint (word rest : List Char) (isTooLarge : Bool) : Option String :=
  let text := String.ofList word
  if rest.isEmpty then
    if isTooLarge then some (text ++ ": Numerical result out of range") else none
  else if rest.length = word.length then some (text ++ ": expected numeric value")
  else some (text ++ ": not completely converted")

/-- The number that a word stands for in a directive, and the complaint about it. -/
def numberOf (signed : Bool) (word : List Char) : Int × Option String :=
  match word with
  | '"' :: rest | '\'' :: rest => (((rest.headD (Char.ofNat 0)).toNat : Int), none)
  | _ =>
      let (isNegative, digits) := readSign (skipSpaces word)
      if (digits.headD ' ').isDigit then
        let (n, rest) := readLiteral digits
        let bound :=
          if signed then (if isNegative then greatest + 1 else greatest) else Nat.pow 2 64 - 1
        let kept : Int := min n bound
        let value := if isNegative && (signed || n ≤ bound) then -kept else kept
        (value, numberComplaint word rest (bound < n))
      else (0, numberComplaint word word false)

/-- The number with a fraction that a word stands for, whether it is below zero, and
the complaint about it. -/
def fractionOf (word : List Char) : Decimal × Bool × Option String :=
  if word.head? = some '"' || word.head? = some '\'' then
    (⟨(word.getD 1 (Char.ofNat 0)).toNat, 0⟩, false, none)
  else
  let (isNegative, digits) := readSign (skipSpaces word)
  let (d, rest) := readFraction digits
  if rest.length = digits.length then (⟨0, 0⟩, false, numberComplaint word word false)
  else (d, isNegative, numberComplaint word rest false)

/-- A number in a directive: digits, or an asterisk for the next word. -/
def readMeasure (cs : List Char) (words : List (List Char)) :
    Option Int × List Char × List (List Char) :=
  match cs with
  | '*' :: rest => (some (words.head?.elim 0 fun word => (numberOf true word).1), rest, words.tail)
  | _ =>
      ((digitsIn 10 (cs.takeWhile Char.isDigit)).map fun n => (n : Int),
        cs.dropWhile Char.isDigit, words)

/-- The layout that a directive begins with, and the words that are left. -/
def readLayout (cs : List Char) (words : List (List Char)) :
    Layout × List Char × List (List Char) :=
  let isFlag (c : Char) : Bool := c = '-' || c = '+' || c = ' ' || c = '0' || c = '#'
  let flags := cs.takeWhile isFlag
  let (width, cs, words) := readMeasure (cs.dropWhile isFlag) words
  let width := width.getD 0
  let flags := if width < 0 then '-' :: flags else flags
  match cs with
  | '.' :: rest =>
      let (precision, cs, words) := readMeasure rest words
      let precision := precision.getD 0
      (⟨flags, width.natAbs, if precision < 0 then none else some precision.toNat⟩, cs, words)
  | _ => (⟨flags, width.natAbs, none⟩, cs, words)

/-- What a directive shows of a word, and the complaint about it; nothing if there is
no such directive. -/
def showWord (layout : Layout) (directive : Char) (word : Option (List Char)) :
    Option (List Char × Option String × Bool) :=
  let text := word.getD []
  let number (signed : Bool) (f : Int → List Char) : Option (List Char × Option String × Bool) :=
    let (n, complaint) := numberOf signed text
    some (f n, complaint, true)
  let fraction : Option (List Char × Option String × Bool) :=
    let (d, isNegative, complaint) := fractionOf text
    let shown := showFraction directive (layout.precision.getD 6) d
    some (fill layout true (shownSign layout isNegative) shown, complaint, true)
  match directive with
  | 's' => some (fill layout false [] (layout.precision.elim text (text.take ·)), none, true)
  | 'b' =>
      let (shown, goesOn) := unescapeWord (text.length + 1) text
      let shown := layout.precision.elim shown (shown.take ·)
      some (fill layout false [] shown, none, goesOn)
  | 'c' => some (fill layout false [] [text.headD (Char.ofNat 0)], none, true)
  | 'd' | 'i' => number true (showNumber layout)
  | 'u' => number false (showBits layout 10 false)
  | 'o' => number false (showBits layout 8 false)
  | 'x' => number false (showBits layout 16 false)
  | 'X' => number false (showBits layout 16 true)
  | 'e' | 'E' | 'f' | 'F' | 'g' | 'G' => fraction
  | _ => none

/-- What one pass over a format prints. -/
def formatOnce : Nat → List Char → List (List Char) → Printed
  | 0, _, words => .stop words [] 0
  | _ + 1, [], words => ⟨[], words, [], 0, true⟩
  | fuel + 1, '%' :: '%' :: rest, words => (formatOnce fuel rest words).after ['%']
  | fuel + 1, '%' :: rest, words =>
      match readLayout rest words with
      | (_, [], words) => .stop words ["missing format character"] 2
      | (layout, directive :: after, words) =>
          match showWord layout directive words.head? with
          | some (shown, complaint, true) =>
              ((formatOnce fuel after words.tail).after shown).since complaint
          | some (shown, _, false) => (Printed.stop words.tail [] 0).after shown
          | none =>
              let read := rest.take (rest.length - after.length)
              .stop words ["%" ++ String.ofList read ++ ": invalid directive"] 2
  | fuel + 1, '\\' :: c :: rest, words =>
      let (plain, after) :=
        if isOctal c then
          let (n, after) := readOctal 3 0 (c :: rest)
          ([Char.ofNat (n % 256)], after)
        else
          match letterEscape? c with
          | some plain => ([plain], rest)
          | none => (['\\'], c :: rest)
      (formatOnce fuel after words).after plain
  | fuel + 1, c :: rest, words => (formatOnce fuel rest words).after [c]

/-- What a format prints that is filled in again while words are left and each pass
takes some. -/
def formatAll : Nat → List Char → List (List Char) → Printed
  | 0, _, words => .stop words [] 0
  | fuel + 1, format, words =>
      let pass := formatOnce (2 * format.length + 1) format words
      if pass.goesOn && !pass.left.isEmpty && pass.left.length < words.length then
        let more := formatAll fuel format pass.left
        ⟨pass.shown ++ more.shown, more.left, pass.complaints ++ more.complaints,
          max pass.code more.code, more.goesOn⟩
      else pass

/-- What `printf` prints. -/
def printf (format : List Char) (words : List (List Char)) : Printed :=
  formatAll (words.length + 1) format words

end SnapshotEngine.Shell
