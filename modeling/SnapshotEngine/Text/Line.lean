/-!
# Lines of a file

Blanks and tabs separate the parts of a line; they never end it.  In front of the
first line there may be a byte order mark, which belongs to no line.
-/

namespace SnapshotEngine.Text

/-- The white space within a line. -/
def isGap (c : Char) : Bool := c = ' ' || c = '\t'

/-- Drops the white space at the beginning of what is left of a line. -/
def skipGaps (cs : List Char) : List Char := cs.dropWhile isGap

/-- Drops a byte order mark at the beginning of a file. -/
def dropMark : List Char → List Char
  | '\uFEFF' :: rest => rest
  | cs => cs

end SnapshotEngine.Text
