import SnapshotEngine.Text.Hex
import SnapshotEngine.Text.Utf8

/-!
# The bodies of JSON strings

Between its quotes a JSON string holds characters and escapes.  Writing
escapes the quote, the backslash and the control characters below U+0020, and
nothing else.  Reading takes every escape of the standard; a code above U+FFFF
is written as a pair of surrogates, and half a pair is refused.

* `unescape?_escape` — what writing produces is read back.
-/

namespace SnapshotEngine.Json

/-- The form of one character in the body of a string. -/
def escapeChar (c : Char) : List Char :=
  if c = '"' then ['\\', '"']
  else if c = '\\' then ['\\', '\\']
  else if c = '\x08' then ['\\', 'b']
  else if c = '\x0c' then ['\\', 'f']
  else if c = '\n' then ['\\', 'n']
  else if c = '\r' then ['\\', 'r']
  else if c = '\t' then ['\\', 't']
  else if c.toNat < 0x20 then
    ['\\', 'u', '0', '0', Hex.lowerDigit (c.toNat / 16), Hex.lowerDigit (c.toNat % 16)]
  else [c]

/-- The body of the string that holds a text. -/
def escape (cs : List Char) : List Char :=
  cs.flatMap escapeChar

/-- The character that a two-character escape stands for. -/
def simpleEscape? : Char → Option Char
  | '"' => some '"'
  | '\\' => some '\\'
  | '/' => some '/'
  | 'b' => some '\x08'
  | 'f' => some '\x0c'
  | 'n' => some '\n'
  | 'r' => some '\r'
  | 't' => some '\t'
  | _ => none

/-- Whether a code is the first half of a surrogate pair. -/
def isHighSurrogate (n : Nat) : Bool := 0xD800 ≤ n && n ≤ 0xDBFF

/-- Whether a code is the second half of a surrogate pair. -/
def isLowSurrogate (n : Nat) : Bool := 0xDC00 ≤ n && n ≤ 0xDFFF

/-- The code above U+FFFF that a pair of surrogates stands for. -/
def pairCode (high low : Nat) : Nat :=
  0x10000 + (high - 0xD800) * 0x400 + (low - 0xDC00)

/-- The text that the body of a string stands for.  An escape by code takes six
characters, or twelve for a pair of surrogates. -/
def unescape? : List Char → Option (List Char)
  | [] => some []
  | '\\' :: 'u' :: a :: b :: c :: d :: rest =>
      match Hex.number? [a, b, c, d] with
      | none => none
      | some code =>
          if isHighSurrogate code then
            match rest with
            | '\\' :: 'u' :: a' :: b' :: c' :: d' :: after =>
                match Hex.number? [a', b', c', d'] with
                | none => none
                | some low =>
                    if isLowSurrogate low then
                      (unescape? after).map (Char.ofNat (pairCode code low) :: ·)
                    else none
            | _ => none
          else if isLowSurrogate code then none
          else (unescape? rest).map (Char.ofNat code :: ·)
  | '\\' :: c :: rest =>
      match simpleEscape? c with
      | some plain => (unescape? rest).map (plain :: ·)
      | none => none
  | c :: rest => if c = '\\' then none else (unescape? rest).map (c :: ·)

/-- A character that needs no escape is read as itself. -/
theorem unescape?_cons_plain {c : Char} (h : c ≠ '\\') (rest : List Char) :
    unescape? (c :: rest) = (unescape? rest).map (c :: ·) := by
  rw [unescape?.eq_def]
  split
  · simp_all
  · rename_i heq
    simp only [List.cons.injEq] at heq
    exact absurd heq.1 h
  · rename_i heq
    simp only [List.cons.injEq] at heq
    exact absurd heq.1 h
  · rename_i heq
    simp only [List.cons.injEq] at heq
    obtain ⟨rfl, rfl⟩ := heq
    simp [h]

/-- The form of a character is read back as that character. -/
theorem unescape?_escapeChar_append (c : Char) (rest : List Char) :
    unescape? (escapeChar c ++ rest) = (unescape? rest).map (c :: ·) := by
  unfold escapeChar
  split
  · rename_i h
    subst h
    simp [unescape?, simpleEscape?]
  split
  · rename_i h
    subst h
    simp [unescape?, simpleEscape?]
  split
  · rename_i h
    subst h
    simp [unescape?, simpleEscape?]
  split
  · rename_i h
    subst h
    simp [unescape?, simpleEscape?]
  split
  · rename_i h
    subst h
    simp [unescape?, simpleEscape?]
  split
  · rename_i h
    subst h
    simp [unescape?, simpleEscape?]
  split
  · rename_i h
    subst h
    simp [unescape?, simpleEscape?]
  split
  · rename_i h
    have hnumber : Hex.number?
        ['0', '0', Hex.lowerDigit (c.toNat / 16), Hex.lowerDigit (c.toNat % 16)]
          = some c.toNat := by
      simp only [Hex.number?, List.foldlM_cons, List.foldlM_nil,
        Hex.value?_lowerDigit (show c.toNat / 16 < 16 by omega),
        Hex.value?_lowerDigit (show c.toNat % 16 < 16 by omega)]
      simp [Hex.value?]
      omega
    have hhigh : isHighSurrogate c.toNat = false := by
      simp only [isHighSurrogate, Bool.and_eq_false_iff, decide_eq_false_iff_not]
      omega
    have hlow : isLowSurrogate c.toNat = false := by
      simp only [isLowSurrogate, Bool.and_eq_false_iff, decide_eq_false_iff_not]
      omega
    simp only [List.cons_append, List.nil_append]
    rw [unescape?, hnumber]
    simp only [hhigh, hlow, Char.ofNat_toNat, Bool.false_eq_true, if_false]
  · rename_i hback _ _ _ _ _ _
    simpa using unescape?_cons_plain hback rest

/-- What writing produces is read back. -/
theorem unescape?_escape (cs : List Char) : unescape? (escape cs) = some cs := by
  induction cs with
  | nil => rfl
  | cons c cs ih =>
      rw [escape, List.flatMap_cons, unescape?_escapeChar_append]
      simp only [escape] at ih
      simp [ih]

end SnapshotEngine.Json
