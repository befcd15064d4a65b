import SnapshotEngine.Text.Hidden

/-!
# Quoted text

Error messages show a name that they reject between double quotes, in a form
that makes every character visible: a quote, a backslash and the four usual
control characters have a two-character escape, any other character without a
printed form is named by its code in lower-case hexadecimal, and the rest
stands for itself.  A single quote needs no escape.
-/

namespace SnapshotEngine.Text

/-- The form of one character inside a quoted text. -/
def quoteChar (c : Char) : List Char :=
  if c = '"' then ['\\', '"']
  else if c = '\\' then ['\\', '\\']
  else if c = '\n' then ['\\', 'n']
  else if c = '\r' then ['\\', 'r']
  else if c = '\t' then ['\\', 't']
  else if c.toNat = 0 then ['\\', '0']
  else if isHidden c then ['\\', 'u', '\x7b'] ++ Nat.toDigits 16 c.toNat ++ ['\x7d']
  else [c]

/-- A text between double quotes, every character visible. -/
def quote (s : String) : String :=
  String.ofList ('"' :: s.toList.flatMap quoteChar ++ ['"'])

end SnapshotEngine.Text
