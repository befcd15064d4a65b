import SnapshotEngine.Text.Cut
import SnapshotEngine.Text.Digits
import SnapshotEngine.Url.Percent

/-!
# Hosts of URLs

A host is a name, an address of up to four numbers, or an address of eight
groups in square brackets, and a port may follow it after a colon.  A name whose
last part is a number is no name but an address, and has to be a good one.  A
name may be percent-encoded; what it stands for must not hold any of the
characters that have a meaning of their own in a URL or that no request can name
its host with.

Names outside ASCII, and names that stand for such a name, are taken as they are
written: whether there is such a host shows when it is asked.

* `written_eq_self` — without a percent sign a name is what is written;
* `isHost_of_kept`, `endsInNumber_append` — what makes a name good;
* `cutPort_append` — where the port begins.
-/

namespace SnapshotEngine.UrlHost

/-- The host and the port, which are parted by the first colon outside square
brackets. -/
def cutPort (bracketed : Bool) : List Char → List Char × List Char
  | [] => ([], [])
  | c :: cs =>
      if c = ':' ∧ !bracketed then ([], cs)
      else
        let parts := cutPort (c = '[' || (bracketed && c ≠ ']')) cs
        (c :: parts.1, parts.2)

/-- The largest port. -/
def maxPort : Nat := 0xFFFF

/-- Whether a text is a port, or leaves it out. -/
def isPort (port : List Char) : Bool :=
  port.all Char.isDigit && Digits.value port ≤ maxPort

/-- The number that a part of an address stands for: in hexadecimal digits behind
`0x`, in octal ones behind another zero, and else in decimal ones. -/
def number? : List Char → Option Nat
  | [] => none
  | ['0'] => some 0
  | '0' :: c :: digits =>
      if c = 'x' || c = 'X' then Digits.ofBase? 0x10 digits else Digits.ofBase? 8 (c :: digits)
  | digits => Digits.ofBase? 10 digits

/-- The parts of a host between its full stops; a last one that is empty does not
count. -/
def parts (host : List Char) : List (List Char) :=
  let all := host.splitOn '.'
  if all.getLast? = some [] then all.dropLast else all

/-- Whether a host is an address by its last part. -/
def endsInNumber (host : List Char) : Bool :=
  (parts host).getLast?.any fun part =>
    (!part.isEmpty && part.all Char.isDigit) || (number? part).isSome

/-- Whether a host is a good address of up to four numbers.  All but the last of
them are bytes; the last stands for the bytes that are left. -/
def isAddress (host : List Char) : Bool :=
  ((parts host).mapM number?).any fun numbers =>
    numbers.length ≤ 4 && numbers.dropLast.all (· < 0x100) &&
      numbers.getLast?.all (· < Nat.pow 0x100 (5 - numbers.length))

/-- Whether a character must not be in the name of a host. -/
def isForbidden (c : Char) : Bool :=
  let n := c.toNat
  n ≤ 0x20 || n == 0x7F ||
    [0x22, 0x23, 0x25, 0x2F, 0x3A, 0x3C, 0x3E, 0x3F, 0x40, 0x5B, 0x5C, 0x5D, 0x5E, 0x60, 0x7B,
      0x7C, 0x7D].contains n

/-- The name that a text stands for. -/
def written (host : List Char) : Option (List Char) :=
  let bytes := Percent.decode host
  Utf8.decodeUpTo bytes.length bytes

/-- Whether a text is a good name of a host, or a good address of numbers. -/
def isName (host : List Char) : Bool :=
  (written host).any fun name =>
    !name.isEmpty && !name.any isForbidden && (!endsInNumber name || isAddress name)

/-- Whether a text is a group of an address in brackets. -/
def isGroup (group : List Char) : Bool :=
  !group.isEmpty && group.length ≤ 4 && group.all (Hex.value? · |>.isSome)

/-- Whether a text is a byte in decimal digits, without a zero in front. -/
def isByte (digits : List Char) : Bool :=
  digits = ['0'] ||
    (!digits.isEmpty && digits.all Char.isDigit && digits.head? ≠ some '0' &&
      Digits.value digits < 0x100)

/-- How many groups there are.  The last two of an address may be written as four
bytes. -/
def countGroups? (isEnd : Bool) : List (List Char) → Option Nat
  | [] => some 0
  | [group] =>
      let bytes := group.splitOn '.'
      if isGroup group then some 1
      else if isEnd && bytes.length = 4 && bytes.all isByte then some 2
      else none
  | group :: more => if isGroup group then (countGroups? isEnd more).map (· + 1) else none

/-- How many groups a text is, which may be none. -/
def groups? (isEnd : Bool) (cs : List Char) : Option Nat :=
  if cs.isEmpty then some 0 else countGroups? isEnd (cs.splitOn ':')

/-- Whether a text is a good address of eight groups.  Two colons in a row stand for
those that are left out, once, and for one at least. -/
def isLongAddress (cs : List Char) : Bool :=
  match Text.cut [':', ':'] cs with
  | some (front, back) =>
      (groups? false front).any fun before => (groups? true back).any (before + · < 8)
  | none => groups? true cs = some 8

/-- Whether a text is a good host. -/
def isHost : List Char → Bool
  | '[' :: rest => rest.getLast? = some ']' && isLongAddress rest.dropLast
  | host => isName host

/-- Whether a text is a good host, with a port or without. -/
def isHostAndPort (cs : List Char) : Bool :=
  let parts := cutPort false cs
  isHost parts.1 && isPort parts.2

/-- Whether all of a text may be in a name can be tested. -/
theorem kept_of_all {cs : List Char} (h : cs.all (!isForbidden ·) = true) :
    ∀ c ∈ cs, isForbidden c = false := by
  simpa using h

theorem isForbidden_of_isDigit {c : Char} (h : c.isDigit) : isForbidden c = false := by
  have hbounds : 0x30 ≤ c.toNat ∧ c.toNat ≤ 0x39 := by
    simp only [Char.isDigit, Bool.and_eq_true, decide_eq_true_eq] at h
    exact h
  simp [isForbidden]
  omega

/-- Without a percent sign a name is what is written. -/
theorem written_eq_self {host : List Char} (h : '%' ∉ host) : written host = some host := by
  have hdecode : Percent.decode host = host.flatMap Utf8.encodeChar := by
    induction host with
    | nil => rfl
    | cons c cs ih =>
        obtain ⟨hc, hcs⟩ := List.ne_and_not_mem_of_not_mem_cons h
        rw [Percent.decode_cons hc.symm, ih hcs, List.flatMap_cons]
  rw [written, hdecode]
  exact Utf8.decodeUpTo_flatMap host _ (Nat.le_refl _)

/-- A text is a good host if nothing forbidden is in it and its last part is no
number. -/
theorem isHost_of_kept {host : List Char} (hne : host ≠ [])
    (h : ∀ c ∈ host, isForbidden c = false) (hlast : endsInNumber host = false) :
    isHost host = true := by
  have hpercent : '%' ∉ host := fun hmem => by cases h _ hmem
  have hany : host.any isForbidden = false := by simpa using h
  have hname : isName host = true := by
    simp [isName, written_eq_self hpercent, hany, hlast, hne]
  unfold isHost
  split
  · cases h '[' (List.mem_cons_self ..)
  · exact hname

/-- Only the last part says whether a host is an address. -/
theorem endsInNumber_append {last : List Char} (hne : last ≠ []) (h : '.' ∉ last)
    (front : List Char) : endsInNumber (front ++ '.' :: last) = endsInNumber last := by
  have hlast : last.splitOn '.' = [last] := List.splitOn_eq_singleton h
  have hparts : parts (front ++ '.' :: last) = front.splitOn '.' ++ [last] := by
    simp [parts, List.splitOn_append_cons_self, hlast, hne]
  have hself : parts last = [last] := by simp [parts, hlast, hne]
  rw [endsInNumber, endsInNumber, hparts, hself]
  simp

/-- The port begins behind the first colon, where there are no brackets. -/
theorem cutPort_append {host : List Char} (h : ∀ c ∈ host, isForbidden c = false)
    (port : List Char) : cutPort false (host ++ ':' :: port) = (host, port) := by
  induction host with
  | nil => rfl
  | cons c cs ih =>
      have hcolon : c ≠ ':' := by
        rintro rfl
        cases h _ (List.mem_cons_self ..)
      have hbracket : c ≠ '[' := by
        rintro rfl
        cases h _ (List.mem_cons_self ..)
      have hcs := ih fun c hc => h c (List.mem_cons_of_mem _ hc)
      rw [List.cons_append, cutPort]
      simp [hcolon, hbracket, hcs]

end SnapshotEngine.UrlHost
