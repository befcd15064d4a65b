import SnapshotEngine.Url.Percent

/-!
# Paths of URLs

The path of a URL is a sequence of segments between slashes; a backslash is as
good as a slash.  A segment that is a full stop says nothing, one that is two
full stops takes the segment before it away, and a full stop may be written
percent-encoded.  What may not stand in a segment is percent-encoded, and a
percent sign that is there already stays.

* `resolve_plain` — segments that are no steps are encoded and kept.
-/

namespace SnapshotEngine.UrlPath

/-- Whether a character separates segments. -/
def isSlash (c : Char) : Bool := c = '/' || c = '\\'

/-- The segments of a text. -/
def segments : List Char → List (List Char)
  | [] => [[]]
  | c :: cs =>
      if isSlash c then [] :: segments cs
      else
        match segments cs with
        | segment :: more => (c :: segment) :: more
        | [] => [[c]]

/-- The same segment with every percent-encoded full stop as a plain one. -/
def plainStops : List Char → List Char
  | '%' :: '2' :: c :: rest =>
      if c = 'e' || c = 'E' then '.' :: plainStops rest
      else '%' :: plainStops ('2' :: c :: rest)
  | c :: rest => c :: plainStops rest
  | [] => []

/-- A step that a segment may be instead of a name. -/
inductive Step where
  | stay
  | up
deriving DecidableEq, Repr

/-- The step that a segment is. -/
def step? (segment : List Char) : Option Step :=
  if plainStops segment = ['.'] then some .stay
  else if plainStops segment = ['.', '.'] then some .up
  else none

/-- The bytes that stand as they are in a segment. -/
def isPlain (b : UInt8) : Bool :=
  let n := b.toNat
  0x20 < n && n < 0x7F && n != 0x22 && n != 0x23 && n != 0x3C && n != 0x3E && n != 0x3F
    && n != 0x60 && n != 0x7B && n != 0x7D

/-- A segment as it stands in a URL. -/
def encodeSegment (segment : List Char) : List Char :=
  Percent.encode isPlain (segment.flatMap Utf8.encodeChar)

/-- Takes the steps among the segments, after those that are there already.  A
step at the end leaves an empty segment. -/
def resolve (done : List (List Char)) : List (List Char) → List (List Char)
  | [] => done
  | segment :: more =>
      match step? segment, more with
      | some .stay, [] => done ++ [[]]
      | some .up, [] => done.dropLast ++ [[]]
      | some .stay, _ :: _ => resolve done more
      | some .up, _ :: _ => resolve done.dropLast more
      | none, _ => resolve (done ++ [encodeSegment segment]) more

/-- The segments of a path, without the slash at its beginning, as they stand in
a URL. -/
def normalize (path : List Char) : List (List Char) :=
  resolve [] (segments path)

/-- The text of a path. -/
def render (path : List (List Char)) : List Char :=
  path.flatMap fun segment => '/' :: segment

/-- Segments that are no steps are encoded and kept. -/
theorem resolve_plain {given : List (List Char)} (h : ∀ s ∈ given, step? s = none)
    (done : List (List Char)) : resolve done given = done ++ given.map encodeSegment := by
  induction given generalizing done with
  | nil => simp [resolve]
  | cons s more ih =>
      have hs := h s (List.mem_cons_self ..)
      have hmore : ∀ t ∈ more, step? t = none := fun t ht => h t (List.mem_cons_of_mem _ ht)
      unfold resolve
      rw [hs]
      simp [ih hmore]

end SnapshotEngine.UrlPath
