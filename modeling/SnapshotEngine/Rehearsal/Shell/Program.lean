import SnapshotEngine.Rehearsal.Shell.Arithmetic

/-!
# Programs beside the shell

Small programs that a script may run: each reads texts, from its input or from the
files it is given, and writes what it makes of them.  None of them changes anything
else.
-/

namespace SnapshotEngine.Shell

/-- What a program has written and how it has ended. -/
structure Performance where
  output : List Char
  errors : List Char
  code : Nat
  /-- What it has left of its input. -/
  rest : List Char
deriving Inhabited

namespace Performance

/-- A program that has written something and read all of its input. -/
def wrote (output : List Char) : Performance := ⟨output, [], 0, []⟩

/-- A program that has complained and read nothing. -/
def complained (complaint : String) (code : Nat) (input : List Char) : Performance :=
  ⟨[], complaint.toList ++ ['\n'], code, input⟩

/-- A program that has complained and pointed at its manual. -/
def confused (name complaint : String) (input : List Char) : Performance :=
  complained (name ++ ": " ++ complaint ++ "\nTry '" ++ name ++ " --help' for more information.")
    1 input

end Performance

/-- The lines of a text, each with its line break. -/
def lines : List Char → List (List Char)
  | [] => []
  | c :: cs =>
      if c = '\n' then ['\n'] :: lines cs
      else
        match lines cs with
        | [] => [[c]]
        | line :: more => (c :: line) :: more

/-- A line without its line break. -/
def bare (line : List Char) : List Char :=
  if line.getLast? = some '\n' then line.dropLast else line

/-- The texts that paths lead to, one after the other, and the complaints about those
that cannot be read.  Without paths, and for a hyphen, it is the input. -/
def joinTexts (read : List Char → Except String (List Char)) (complaint : String → String → String)
    (input : List Char) (paths : List (List Char)) : List Char × List Char :=
  if paths.isEmpty then (input, [])
  else
    let results := paths.map fun path =>
      if path = ['-'] then (input, [])
      else
        match read path with
        | .ok text => (text, [])
        | .error reason => ([], (complaint (String.ofList path) reason).toList ++ ['\n'])
    ((results.map (·.1)).flatten, (results.map (·.2)).flatten)

/-- What a program leaves of its input that has read some paths. -/
def leftOf (input : List Char) (paths : List (List Char)) : List Char :=
  if paths.isEmpty || paths.contains ['-'] then [] else input

/-- What a program makes of the texts that it is given. -/
def onTexts (name : String) (read : List Char → Except String (List Char)) (input : List Char)
    (paths : List (List Char)) (f : List Char → List Char) : Performance :=
  let (text, errors) := joinTexts read (fun path reason => name ++ ": " ++ path ++ ": " ++ reason)
    input paths
  ⟨f text, errors, if errors.isEmpty then 0 else 1, leftOf input paths⟩

/-- The letters of the options at the beginning, and the words behind them. -/
def splitOptions : List (List Char) → List Char × List (List Char)
  | ['-', '-'] :: rest => ([], rest)
  | ('-' :: c :: letters) :: rest =>
      let (more, words) := splitOptions rest
      (c :: letters ++ more, words)
  | words => ([], words)

/-- Prints the texts that it is given. -/
def concatenate (read : List Char → Except String (List Char)) (arguments : List (List Char))
    (input : List Char) : Performance :=
  let (options, paths) := splitOptions arguments
  match options.find? fun c => !"uvetAETbns".toList.contains c with
  | some c => .confused "cat" ("invalid option -- '" ++ c.toString ++ "'") input
  | none =>
      let number (text : List Char) : List Char :=
        ((lines text).zipIdx 1).flatMap fun (line, n) =>
          let digits := Nat.toDigits 10 n
          List.replicate (6 - digits.length) ' ' ++ digits ++ '\t' :: line
      onTexts "cat" read input paths (if options.contains 'n' then number else id)

/-- Counts lines, words and bytes. -/
def tally (read : List Char → Except String (List Char)) (arguments : List (List Char))
    (input : List Char) : Performance :=
  let (options, paths) := splitOptions arguments
  let all := options.isEmpty
  let words (text : List Char) : Nat :=
    (text.foldl (fun (n, inWord) c =>
      if isSpace c then (n, false) else (if inWord then n else n + 1, true)) (0, false)).1
  let counts (text : List Char) : List Nat :=
    (if all || options.contains 'l' then [text.count '\n'] else [])
      ++ (if all || options.contains 'w' then [words text] else [])
      ++ (if all || options.contains 'c' || options.contains 'm' then [text.length] else [])
  let shown (text : List Char) (path : Option (List Char)) : List Char :=
    let counts := counts text
    let width :=
      if counts.length = 1 then 1
      else if path.isSome then (Nat.toDigits 10 text.length).length
      else 7
    let columns := counts.map fun n =>
      let digits := Nat.toDigits 10 n
      List.replicate (width - digits.length) ' ' ++ digits
    List.intercalate [' '] (columns ++ path.toList) ++ ['\n']
  if paths.isEmpty then .wrote (shown input none)
  else
    let results := paths.map fun path =>
      match if path = ['-'] then .ok input else read path with
      | .ok text => (shown text (some path), [])
      | .error reason => ([], ("wc: " ++ String.ofList path ++ ": " ++ reason ++ "\n").toList)
    let errors := (results.map (·.2)).flatten
    ⟨(results.map (·.1)).flatten, errors, if errors.isEmpty then 0 else 1, leftOf input paths⟩

/-- Which part of a text is asked for. -/
structure Portion where
  /-- Whether bytes are counted, rather than lines. -/
  inBytes : Bool
  /-- The sign in front of the count. -/
  sign : Option Char
  count : List Char
deriving Inhabited

/-- The portion that arguments ask for, and the paths behind them. -/
def portion : List (List Char) → Portion → Portion × List (List Char)
  | ['-', 'n'] :: count :: rest, _ => portion rest (ofWord false count)
  | ['-', 'c'] :: count :: rest, _ => portion rest (ofWord true count)
  | ('-' :: 'n' :: count) :: rest, _ => portion rest (ofWord false count)
  | ('-' :: 'c' :: count) :: rest, _ => portion rest (ofWord true count)
  | ('-' :: c :: count) :: rest, p =>
      if c.isDigit then portion rest ⟨false, none, c :: count⟩
      else if c = 'q' then portion rest p
      else (p, ('-' :: c :: count) :: rest)
  | rest, p => (p, rest)
where
  /-- The portion that a word with a sign asks for. -/
  ofWord (inBytes : Bool) : List Char → Portion
    | '-' :: count => ⟨inBytes, some '-', count⟩
    | '+' :: count => ⟨inBytes, some '+', count⟩
    | count => ⟨inBytes, none, count⟩

/-- Prints the beginning or the end of the texts that it is given. -/
def excerpt (name : String) (atEnd : Bool) (read : List Char → Except String (List Char))
    (arguments : List (List Char)) (input : List Char) : Performance :=
  let (portion, paths) := portion arguments ⟨false, none, ['1', '0']⟩
  match digitsIn 10 portion.count, paths with
  | none, _ =>
      .complained (name ++ ": invalid number of " ++ (if portion.inBytes then "bytes" else "lines")
        ++ ": '" ++ String.ofList portion.count ++ "'") 1 input
  | some _, ('-' :: c :: _) :: _ =>
      .confused name ("invalid option -- '" ++ c.toString ++ "'") input
  | some n, _ =>
      let pick {α : Type} (xs : List α) : List α :=
        match atEnd, portion.sign with
        | false, some '-' => xs.take (xs.length - n)
        | false, _ => xs.take n
        | true, some '+' => xs.drop (n - 1)
        | true, _ => xs.drop (xs.length - n)
      let isEndless := paths = ["/dev/zero".toList] && !atEnd && portion.inBytes
      let (text, errors) :=
        if isEndless then (List.replicate n (Char.ofNat 0), [])
        else
          joinTexts read (fun path reason =>
            name ++ ": cannot open '" ++ path ++ "' for reading: " ++ reason) input paths
      let picked := if portion.inBytes then pick text else (pick (lines text)).flatten
      ⟨picked, errors, if errors.isEmpty then 0 else 1, leftOf input paths⟩

/-- Prints numbers, from one to another in steps. -/
def countUp (arguments : List (List Char)) (input : List Char) : Performance :=
  let (separator, widened, numbers) :=
    match arguments with
    | ['-', 's'] :: separator :: rest => (separator, false, rest)
    | ['-', 'w'] :: rest => (['\n'], true, rest)
    | rest => (['\n'], false, rest)
  let go (first step last : Int) : Performance :=
    if step = 0 then .confused "seq" "invalid Zero increment value: '0'" input
    else
      let steps := if 0 < step then (last - first + step) / step else (first - last - step) / (-step)
      let shown := (List.range steps.toNat).map fun (i : Nat) => ofInteger (first + step * i)
      let width := if widened then (shown.map List.length).foldl max 0 else 0
      let shown := shown.map fun cs => List.replicate (width - cs.length) '0' ++ cs
      .wrote (if shown.isEmpty then [] else List.intercalate separator shown ++ ['\n'])
  match numbers.find? fun word => (integer? word).isNone, numbers.filterMap integer? with
  | some word, _ =>
      .confused "seq" ("invalid floating point argument: '" ++ String.ofList word ++ "'") input
  | none, [last] => go 1 1 last
  | none, [first, last] => go first 1 last
  | none, [first, step, last] => go first step last
  | none, [] => .confused "seq" "missing operand" input
  | none, _ =>
      .confused "seq" ("extra operand '" ++ String.ofList (numbers.getD 3 []) ++ "'") input

/-- The characters from one to another. -/
def charsBetween (a b : Char) : List Char :=
  (List.range (b.toNat + 1 - a.toNat)).map fun i => Char.ofNat (a.toNat + i)

/-- The characters that a set names: single ones, ranges and classes. -/
def charSet : Nat → List Char → List Char
  | 0, _ | _, [] => []
  | fuel + 1, '[' :: ':' :: rest =>
      let name := rest.takeWhile (· ≠ ':')
      let after := rest.drop (name.length + 2)
      let codes := charsBetween (Char.ofNat 0) (Char.ofNat 127)
      let members : List Char :=
        match String.ofList name with
        | "upper" => charsBetween 'A' 'Z'
        | "lower" => charsBetween 'a' 'z'
        | "digit" => charsBetween '0' '9'
        | "alpha" => codes.filter Char.isAlpha
        | "alnum" => codes.filter Char.isAlphanum
        | "space" => codes.filter isSpace
        | "punct" => codes.filter fun c => '!' ≤ c && c ≤ '~' && !c.isAlphanum
        | _ => []
      members ++ charSet fuel after
  | fuel + 1, '\\' :: c :: rest =>
      if c.isDigit then
        let digits := (c :: rest).takeWhile Char.isDigit |>.take 3
        Char.ofNat ((digitsIn 8 digits).getD 0) :: charSet fuel ((c :: rest).drop digits.length)
      else
        let plain := match c with
          | 'n' => '\n'
          | 't' => '\t'
          | 'r' => '\r'
          | other => other
        plain :: charSet fuel rest
  | fuel + 1, a :: '-' :: b :: rest => charsBetween a b ++ charSet fuel rest
  | fuel + 1, c :: rest => c :: charSet fuel rest

/-- A text in which each run of one of the given characters is a single one. -/
def squeeze (members : List Char) : List Char → List Char
  | a :: b :: rest =>
      if a = b && members.contains a then squeeze members (b :: rest)
      else a :: squeeze members (b :: rest)
  | cs => cs

/-- Puts characters in place of others, or drops them. -/
def transliterate (arguments : List (List Char)) (input : List Char) : Performance :=
  let (options, sets) := splitOptions arguments
  let isOther := options.contains 'c' || options.contains 'C'
  let sets := sets.map fun set => (set, charSet (set.length + 1) set)
  let isIn (set : List Char) (c : Char) : Bool := set.contains c != isOther
  match sets with
  | [] => .confused "tr" "missing operand" input
  | [(text, set)] =>
      if options.contains 'd' then .wrote (input.filter fun c => !isIn set c)
      else if options.contains 's' then .wrote (squeeze (input.filter (isIn set)) input)
      else
        .confused "tr" ("missing operand after '" ++ String.ofList text
          ++ "'\nTwo strings must be given when translating.") input
  | (_, set) :: (_, others) :: _ =>
      let last := others.getLastD ' '
      let change (c : Char) : Char :=
        if isOther then if set.contains c then c else last
        else
          match ((set.zipIdx).filter fun entry => entry.1 = c).getLast? with
          | some (_, i) => others.getD i last
          | none => c
      if options.contains 'd' then .wrote (squeeze others (input.filter fun c => !isIn set c))
      else
        let changed := input.map change
        .wrote (if options.contains 's' then squeeze others changed else changed)

/-- Prints lines in order. -/
def sortLines (read : List Char → Except String (List Char)) (arguments : List (List Char))
    (input : List Char) : Performance :=
  let (options, paths) := splitOptions arguments
  let (text, errors) := joinTexts read
    (fun path reason => "sort: cannot read: " ++ path ++ ": " ++ reason) input paths
  let key (line : List Char) : Int :=
    let (isNegative, digits) := readSign (skipSpaces line)
    let n : Int := (readDigits 10 digits).1
    if isNegative then -n else n
  let isBefore (a b : List Char) : Bool :=
    if options.contains 'n' && key a ≠ key b then key a < key b
    else decide (String.ofList a ≤ String.ofList b)
  let sorted := ((lines text).map bare).mergeSort isBefore
  let sorted := if options.contains 'u' then sorted.eraseReps else sorted
  let sorted := if options.contains 'r' then sorted.reverse else sorted
  let rest := leftOf input paths
  if errors.isEmpty then ⟨sorted.flatMap fun line => line ++ ['\n'], [], 0, rest⟩
  else ⟨[], errors, 2, rest⟩

/-- Groups of equal neighbours. -/
def groups : List (List Char) → List (List Char × Nat)
  | [] => []
  | line :: more =>
      match groups more with
      | (other, n) :: rest =>
          if other = line then (line, n + 1) :: rest else (line, 1) :: (other, n) :: rest
      | [] => [(line, 1)]

/-- Prints one line of each group of equal neighbours. -/
def distinctLines (read : List Char → Except String (List Char)) (arguments : List (List Char))
    (input : List Char) : Performance :=
  let (options, paths) := splitOptions arguments
  onTexts "uniq" read input paths fun text =>
    (groups ((lines text).map bare)).flatMap fun (line, n) =>
      let digits := Nat.toDigits 10 n
      (if options.contains 'c' then List.replicate (7 - digits.length) ' ' ++ digits ++ [' ']
        else []) ++ line ++ ['\n']

/-- A path without slashes at its end; one of nothing but slashes is a single slash. -/
def withoutSlashes (path : List Char) : List Char :=
  let kept := (path.reverse.dropWhile (· = '/')).reverse
  if kept.isEmpty && !path.isEmpty then ['/'] else kept

/-- The last part of a path, without an ending if there is more than that. -/
def lastPart (path ending : List Char) : List Char :=
  let path := withoutSlashes path
  let part := if path = ['/'] then path else (path.reverse.takeWhile (· ≠ '/')).reverse
  if ending.isSuffixOf part && ending ≠ part then part.take (part.length - ending.length) else part

/-- A path without its last part. -/
def withoutLastPart (path : List Char) : List Char :=
  let path := withoutSlashes path
  if path.contains '/' then withoutSlashes ((path.reverse.dropWhile (· ≠ '/')).reverse)
  else ['.']

/-- Prints the value of an operation. -/
def calculate (arguments : List (List Char)) (input : List Char) : Performance :=
  let finish (value : List Char) : Performance :=
    ⟨value ++ ['\n'], [], if value.isEmpty || value = ['0'] then 1 else 0, input⟩
  let truth (b : Bool) : Performance := finish (if b then ['1'] else ['0'])
  match arguments with
  | [] =>
      { Performance.confused "expr" "missing operand" input with code := 2 }
  | [value] => finish value
  | [a, operator, b] =>
      let failed (reason : String) : Performance := .complained ("expr: " ++ reason) 2 input
      match String.ofList operator, integer? a, integer? b with
      | "+", some n, some m => finish (ofInteger (n + m))
      | "-", some n, some m => finish (ofInteger (n - m))
      | "*", some n, some m => finish (ofInteger (n * m))
      | "/", some n, some m =>
          if m = 0 then failed "division by zero" else finish (ofInteger (n.tdiv m))
      | "%", some n, some m =>
          if m = 0 then failed "division by zero" else finish (ofInteger (n.tmod m))
      | "=", _, _ => truth (a = b)
      | "!=", _, _ => truth (a ≠ b)
      | "<", some n, some m => truth (n < m)
      | "<=", some n, some m => truth (n ≤ m)
      | ">", some n, some m => truth (m < n)
      | ">=", some n, some m => truth (m ≤ n)
      | name, _, _ =>
          if ["+", "-", "*", "/", "%"].contains name then failed "non-integer argument"
          else failed ("syntax error: unexpected argument '" ++ name ++ "'")
  | _ :: operator :: _ =>
      .complained ("expr: syntax error: unexpected argument '" ++ String.ofList operator ++ "'") 2
        input

/-- Whether a word is a length of time. -/
def isTime (word : List Char) : Bool :=
  let digits := word.takeWhile fun c => c.isDigit || c = '.'
  digits.any Char.isDigit && digits.count '.' ≤ 1
    && [[], ['s'], ['m'], ['h'], ['d']].contains (word.drop digits.length)

/-- How much is written by a program that would write forever. -/
def muchText : Nat := 400000

/-- Copies blocks of bytes. -/
def copyBlocks (read : List Char → Except String (List Char)) (arguments : List (List Char))
    (input : List Char) : Performance :=
  let value (key : String) : Option (List Char) :=
    let lead := key.toList ++ ['=']
    (arguments.find? lead.isPrefixOf).map (·.drop lead.length)
  let size (word : List Char) : Nat :=
    let (n, unit) := readDigits 10 word
    match unit with
    | ['k'] | ['K'] => n * 1024
    | ['M'] => n * 1024 * 1024
    | _ => n
  let block := (value "bs").elim 512 size
  let limit := (value "count").map fun word => size word * block
  match value "if" with
  | none => .wrote (limit.elim input (input.take ·))
  | some path =>
      if path = "/dev/zero".toList then
        ⟨List.replicate (limit.getD 0) (Char.ofNat 0), [], 0, input⟩
      else
        match read path with
        | .ok text => ⟨limit.elim text (text.take ·), [], 0, input⟩
        | .error reason =>
            .complained ("dd: failed to open '" ++ String.ofList path ++ "': " ++ reason) 1 input

/-- Runs the program of a name, if there is one. -/
def perform? (read : List Char → Except String (List Char)) (name : String)
    (arguments : List (List Char)) (input : List Char) : Option Performance :=
  match name with
  | "cat" => some (concatenate read arguments input)
  | "wc" => some (tally read arguments input)
  | "head" => some (excerpt "head" false read arguments input)
  | "tail" => some (excerpt "tail" true read arguments input)
  | "seq" => some (countUp arguments input)
  | "tr" => some (transliterate arguments input)
  | "sort" => some (sortLines read arguments input)
  | "uniq" => some (distinctLines read arguments input)
  | "expr" => some (calculate arguments input)
  | "dd" => some (copyBlocks read arguments input)
  | "tee" => some (.wrote input)
  | "rev" =>
      some (.wrote ((lines input).flatMap fun line => (bare line).reverse ++ ['\n']))
  | "tac" => some (.wrote (lines input).reverse.flatten)
  | "yes" =>
      let line := if arguments.isEmpty then ['y'] else List.intercalate [' '] arguments
      let times := muchText / (line.length + 1) + 1
      some ⟨(List.replicate times (line ++ ['\n'])).flatten, [], 0, input⟩
  | "basename" =>
      match arguments with
      | [] => some (.confused "basename" "missing operand" input)
      | path :: more => some ⟨lastPart path (more.headD []) ++ ['\n'], [], 0, input⟩
  | "dirname" =>
      match arguments with
      | [] => some (.confused "dirname" "missing operand" input)
      | path :: _ => some ⟨withoutLastPart path ++ ['\n'], [], 0, input⟩
  | "sleep" =>
      match arguments.find? (!isTime ·) with
      | some word =>
          some (.confused "sleep" ("invalid time interval '" ++ String.ofList word ++ "'") input)
      | none =>
          if arguments.isEmpty then some (.confused "sleep" "missing operand" input)
          else some ⟨[], [], 0, input⟩
  | _ => none

end SnapshotEngine.Shell
