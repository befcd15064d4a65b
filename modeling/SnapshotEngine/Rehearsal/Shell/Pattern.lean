import SnapshotEngine.Rehearsal.Shell.Syntax

/-!
# Patterns of the shell

In a pattern an asterisk stands for any text, a question mark for any character and
brackets for one of several; what is quoted stands for itself.
-/

namespace SnapshotEngine.Shell

/-- A text of which some characters are quoted. -/
abbrev Marked := List (Char × Bool)

/-- A text as it is, quoted or not. -/
def marked (quoted : Bool) (cs : List Char) : Marked := cs.map fun c => (c, quoted)

/-- The text without its quotes. -/
def unmarked (text : Marked) : List Char := text.map (·.1)

/-- A part of a pattern. -/
inductive PatternPart where
  | one (c : Char)
  | anyOne
  | anyText
  /-- A character in one of the ranges, or in none. -/
  | oneOf (isNegated : Bool) (ranges : List (Char × Char))
deriving DecidableEq, Repr, Inhabited

namespace PatternPart

/-- The ranges of a class of characters. -/
def classRanges (name : List Char) : List (Char × Char) :=
  match String.ofList name with
  | "alnum" => [('0', '9'), ('A', 'Z'), ('a', 'z')]
  | "alpha" => [('A', 'Z'), ('a', 'z')]
  | "blank" => [(' ', ' '), ('\t', '\t')]
  | "cntrl" => [(Char.ofNat 0, Char.ofNat 31), (Char.ofNat 127, Char.ofNat 127)]
  | "digit" => [('0', '9')]
  | "graph" => [('!', '~')]
  | "lower" => [('a', 'z')]
  | "print" => [(' ', '~')]
  | "punct" => [('!', '/'), (':', '@'), ('[', '\x60'), ('\x7b', '~')]
  | "space" => [(' ', ' '), ('\t', '\r')]
  | "upper" => [('A', 'Z')]
  | "xdigit" => [('0', '9'), ('A', 'F'), ('a', 'f')]
  | _ => []

/-- Reads the ranges up to the bracket that ends them; one at the beginning does not. -/
def readRanges : Nat → Bool → Marked → Option (List (Char × Char) × Marked)
  | 0, _, _ | _, _, [] => none
  | fuel + 1, isFirst, (c, quoted) :: rest =>
      let next (found : List (Char × Char)) (rest : Marked) :
          Option (List (Char × Char) × Marked) :=
        (readRanges fuel false rest).map fun r => (found ++ r.1, r.2)
      if c = ']' && !quoted && !isFirst then some ([], rest)
      else if c = '[' && !quoted && rest.head? = some (':', false) then
        let name := unmarked ((rest.drop 1).takeWhile (·.1 ≠ ':'))
        let after := rest.drop (name.length + 1)
        if after.take 2 = [(':', false), (']', false)] then next (classRanges name) (after.drop 2)
        else next [(c, c)] rest
      else
        match rest with
        | ('-', false) :: (d, isQuoted) :: after =>
            if d = ']' && !isQuoted then next [(c, c)] rest else next [(c, d)] after
        | _ => next [(c, c)] rest

/-- The parts of a pattern. -/
def ofText : Nat → Marked → List PatternPart
  | 0, _ | _, [] => []
  | fuel + 1, ('*', false) :: rest => .anyText :: ofText fuel rest
  | fuel + 1, ('?', false) :: rest => .anyOne :: ofText fuel rest
  | fuel + 1, ('[', false) :: rest =>
      let isNegated := rest.head? = some ('!', false)
      match readRanges fuel true (if isNegated then rest.drop 1 else rest) with
      | some (ranges, after) => .oneOf isNegated ranges :: ofText fuel after
      | none => .one '[' :: ofText fuel rest
  | fuel + 1, (c, _) :: rest => .one c :: ofText fuel rest

/-- Whether a character matches a part that stands for one. -/
def accepts (part : PatternPart) (c : Char) : Bool :=
  match part with
  | .one d => c = d
  | .anyOne => true
  | .anyText => false
  | .oneOf isNegated ranges => (ranges.any fun r => r.1 ≤ c && c ≤ r.2) != isNegated

end PatternPart

/-- All ends of a text, the longest first. -/
def ends : List Char → List (List Char)
  | [] => [[]]
  | c :: cs => (c :: cs) :: ends cs

/-- Whether a text matches a pattern. -/
def PatternPart.matches : List PatternPart → List Char → Bool
  | [], cs => cs.isEmpty
  | .anyText :: more, cs => (ends cs).any fun rest => PatternPart.matches more rest
  | part :: more, c :: cs => part.accepts c && PatternPart.matches more cs
  | _ :: _, [] => false

/-- The parts of a pattern. -/
def patternOf (text : Marked) : List PatternPart := PatternPart.ofText text.length text

/-- A text without the shortest or longest part at one end that matches a pattern. -/
def cutPattern (isAtEnd isLongest : Bool) (pattern : List PatternPart) (cs : List Char) : List Char :=
  let counts := List.range (cs.length + 1)
  let counts := if isAtEnd = isLongest then counts else counts.reverse
  let fits (n : Nat) : Bool :=
    PatternPart.matches pattern (if isAtEnd then cs.drop n else cs.take n)
  match counts.find? fits with
  | some n => if isAtEnd then cs.take n else cs.drop n
  | none => cs

end SnapshotEngine.Shell
