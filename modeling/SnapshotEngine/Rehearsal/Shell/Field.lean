import SnapshotEngine.Rehearsal.Shell.Pattern
import SnapshotEngine.Rehearsal.Shell.Token

/-!
# From the parts of a word to fields

When its expansions are known, a word is a list of parts.  What was not quoted is
taken apart at separators, which makes a word several fields, or none.
-/

namespace SnapshotEngine.Shell

/-- A part of a word whose expansions are known. -/
inductive Part where
  | fixed (quoted : Bool) (cs : List Char)
  /-- A text that is taken apart at separators. -/
  | split (cs : List Char)
  /-- The end of a field. -/
  | next
deriving DecidableEq, Repr, Inhabited

/-- The fields so far: those that are complete, the last one first, and the one that
is being added to. -/
structure Fields where
  complete : List (List Char)
  current : Option (List Char)
  /-- Whether white space has just completed a field. -/
  isAfterGap : Bool

namespace Fields

/-- No field yet. -/
def empty : Fields := ⟨[], none, false⟩

/-- Adds to the current field. -/
def add (f : Fields) (cs : List Char) : Fields :=
  { f with current := some (f.current.getD [] ++ cs), isAfterGap := false }

/-- Completes the current field, if there is one. -/
def close (f : Fields) : Fields :=
  match f.current with
  | some field => ⟨field :: f.complete, none, f.isAfterGap⟩
  | none => f

/-- Completes the current field at white space. -/
def gap (f : Fields) : Fields :=
  if f.current.isSome then { f.close with isAfterGap := true } else f

/-- Completes the current field at another separator, even an empty one. -/
def mark (f : Fields) : Fields :=
  if f.current.isSome then { f.close with isAfterGap := false }
  else if f.isAfterGap then { f with isAfterGap := false }
  else ⟨[] :: f.complete, none, false⟩

/-- Adds a text that is taken apart at separators. -/
def addSplit (separators : List Char) (f : Fields) : List Char → Fields
  | [] => f
  | c :: rest =>
      if separators.contains c then
        if isGap c || c = '\n' then f.gap.addSplit separators rest
        else f.mark.addSplit separators rest
      else (f.add [c]).addSplit separators rest

/-- All fields in order. -/
def all (f : Fields) : List (List Char) := f.close.complete.reverse

end Fields

/-- The white space of the shell. -/
def usualSeparators : List Char := [' ', '\t', '\n']

/-- The fields that parts make. -/
def fields (separators : List Char) (parts : List Part) : List (List Char) :=
  let add (f : Fields) (part : Part) : Fields :=
    match part with
    | .fixed quoted cs => if quoted || !cs.isEmpty then f.add cs else f
    | .split cs => f.addSplit separators cs
    | .next => f.close
  (parts.foldl add .empty).all

/-- The characters of parts that are not taken apart; a text stands between what
would be fields. -/
def joined (between : List Char) (parts : List Part) : Marked :=
  parts.flatMap fun
    | .fixed quoted cs => marked quoted cs
    | .split cs => marked false cs
    | .next => marked true between

/-- Values with the ends of fields between them. -/
def apart (f : List Char → Part) : List (List Char) → List Part
  | [] => []
  | [value] => [f value]
  | value :: more => f value :: .next :: apart f more

end SnapshotEngine.Shell
