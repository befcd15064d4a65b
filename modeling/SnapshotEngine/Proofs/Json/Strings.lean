import SnapshotEngine.Json.Value

/-!
# What strings say

Between its quotes a string is UTF-8, and each of its characters stands for itself unless a
backslash begins an escape.  A code that is half of a surrogate pair stands for nothing on
its own.

* `Utf8.decode?_eq_some_iff` — only the bytes of a text decode to that text;
* `Unescapes`, `Says` — what the body of a string says;
* `bodyText?_eq_some_iff` — what is read of a body is what it says;
* `Readable` — values in which every string says something.
-/

namespace SnapshotEngine

namespace Utf8

/-! ## Bytes of characters -/

theorem encodeChar_ofNat {n : Nat} (h : n.isValidChar) :
    encodeChar (Char.ofNat n) =
      if n < 0x80 then [UInt8.ofNat n]
      else if n < 0x800 then [UInt8.ofNat (0xC0 + n / 0x40), UInt8.ofNat (0x80 + n % 0x40)]
      else if n < 0x10000 then
        [UInt8.ofNat (0xE0 + n / 0x1000), UInt8.ofNat (0x80 + n / 0x40 % 0x40),
          UInt8.ofNat (0x80 + n % 0x40)]
      else
        [UInt8.ofNat (0xF0 + n / 0x40000), UInt8.ofNat (0x80 + n / 0x1000 % 0x40),
          UInt8.ofNat (0x80 + n / 0x40 % 0x40), UInt8.ofNat (0x80 + n % 0x40)] := by
  have hn : (Char.ofNat n).toNat = n := by
    rw [Char.ofNat, dif_pos h]
    rfl
  unfold encodeChar
  rw [hn]

theorem ofNat_of_toNat_eq {b : UInt8} {n : Nat} (h : n = b.toNat) : UInt8.ofNat n = b := by
  rw [h, UInt8.ofNat_toNat]

/-- A byte that follows a lead byte is in range and adds to the code. -/
theorem readTail_succ_eq_ok {low high following code : Nat} {bs : Bytes} {r : Nat × Bytes}
    (h : readTail low high (following + 1) code bs = .ok r) :
    ∃ b more, bs = b :: more ∧ low ≤ b.toNat ∧ b.toNat ≤ high ∧
      readTail 0x80 0xBF following (code * 0x40 + (b.toNat - 0x80)) more = .ok r := by
  cases bs with
  | nil => cases h
  | cons b more =>
      rw [readTail] at h
      split at h
      · rename_i hrange
        exact ⟨b, more, rfl, hrange.1, hrange.2, h⟩
      · cases h

/-- How many bytes a character has tells the range of its first two bytes. -/
theorem lead?_eq_some {n : Nat} {lead : Lead} (h : lead? n = some lead) :
    (lead.following = 1 ∧ n = 0xC0 + lead.share ∧ 2 ≤ lead.share ∧ lead.share < 0x20 ∧
        lead.low = 0x80 ∧ lead.high = 0xBF) ∨
      (lead.following = 2 ∧ n = 0xE0 + lead.share ∧ lead.share < 0x10 ∧ 0x80 ≤ lead.low ∧
        lead.high ≤ 0xBF ∧ (lead.share = 0 → 0xA0 ≤ lead.low) ∧
        (lead.share = 0xD → lead.high ≤ 0x9F)) ∨
      (lead.following = 3 ∧ n = 0xF0 + lead.share ∧ lead.share ≤ 4 ∧ 0x80 ≤ lead.low ∧
        lead.high ≤ 0xBF ∧ (lead.share = 0 → 0x90 ≤ lead.low) ∧
        (lead.share = 4 → lead.high ≤ 0x8F)) := by
  unfold lead? at h
  iterate 7
    split at h
    · obtain rfl := Option.some.inj h
      dsimp only
      omega
  cases h

/-- What is read as a character are the bytes of that character. -/
theorem readChar_sound {b : UInt8} {bs rest : Bytes} {c : Char}
    (h : readChar b bs = .ok (c, rest)) : b :: bs = encodeChar c ++ rest := by
  unfold readChar at h
  split at h
  · rename_i hascii
    cases h
    rw [encodeChar_ofNat (.inl (by omega)), if_pos hascii, UInt8.ofNat_toNat]
    rfl
  split at h
  · cases h
  rename_i lead hlead
  split at h
  case h_2 => cases h
  rename_i code after htail
  cases h
  rcases lead?_eq_some hlead with ⟨hk, hb, hmin, hmax, hlow, hhigh⟩ |
    ⟨hk, hb, hmax, hlow, hhigh, hfirst, hlast⟩ | ⟨hk, hb, hmax, hlow, hhigh, hfirst, hlast⟩
  · rw [hk] at htail
    obtain ⟨b₁, _, rfl, hlow₁, hhigh₁, htail⟩ := readTail_succ_eq_ok htail
    obtain ⟨rfl, rfl⟩ := Prod.mk.inj (Except.ok.inj ((readTail_zero ..).symm.trans htail))
    rw [encodeChar_ofNat (.inl (by omega)), if_neg (by omega), if_pos (by omega),
      ofNat_of_toNat_eq (b := b) (by omega), ofNat_of_toNat_eq (b := b₁) (by omega)]
    rfl
  · rw [hk] at htail
    obtain ⟨b₁, _, rfl, hlow₁, hhigh₁, htail⟩ := readTail_succ_eq_ok htail
    obtain ⟨b₂, _, rfl, hlow₂, hhigh₂, htail⟩ := readTail_succ_eq_ok htail
    obtain ⟨rfl, rfl⟩ := Prod.mk.inj (Except.ok.inj ((readTail_zero ..).symm.trans htail))
    rw [encodeChar_ofNat (by unfold Nat.isValidChar; omega), if_neg (by omega), if_neg (by omega),
      if_pos (by omega), ofNat_of_toNat_eq (b := b) (by omega),
      ofNat_of_toNat_eq (b := b₁) (by omega), ofNat_of_toNat_eq (b := b₂) (by omega)]
    rfl
  · rw [hk] at htail
    obtain ⟨b₁, _, rfl, hlow₁, hhigh₁, htail⟩ := readTail_succ_eq_ok htail
    obtain ⟨b₂, _, rfl, hlow₂, hhigh₂, htail⟩ := readTail_succ_eq_ok htail
    obtain ⟨b₃, _, rfl, hlow₃, hhigh₃, htail⟩ := readTail_succ_eq_ok htail
    obtain ⟨rfl, rfl⟩ := Prod.mk.inj (Except.ok.inj ((readTail_zero ..).symm.trans htail))
    rw [encodeChar_ofNat (by unfold Nat.isValidChar; omega), if_neg (by omega), if_neg (by omega),
      if_neg (by omega), ofNat_of_toNat_eq (b := b) (by omega),
      ofNat_of_toNat_eq (b := b₁) (by omega), ofNat_of_toNat_eq (b := b₂) (by omega),
      ofNat_of_toNat_eq (b := b₃) (by omega)]
    rfl

theorem decodeUpTo_sound {fuel : Nat} {bs : Bytes} {cs : List Char}
    (h : decodeUpTo fuel bs = some cs) : bs = bytes cs := by
  fun_induction decodeUpTo fuel bs generalizing cs with
  | case1 =>
      cases h
      rfl
  | case2 => cases h
  | case3 fuel b bs c rest hread ih =>
      obtain ⟨more, hmore, rfl⟩ := Option.map_eq_some_iff.mp h
      rw [bytes_cons, ← ih hmore]
      exact readChar_sound hread
  | case4 => cases h

/-- Only the bytes of a text decode to that text. -/
theorem decode?_eq_some_iff {bs : Bytes} {s : String} :
    decode? bs = some s ↔ bs = bytes s.toList := by
  constructor
  · intro h
    obtain ⟨cs, hcs, rfl⟩ := Option.map_eq_some_iff.mp h
    rw [String.toList_ofList]
    exact decodeUpTo_sound hcs
  · rintro rfl
    exact decode?_encode s

end Utf8

namespace Json

/-! ## Escapes -/

/-- What is written stands for a text. -/
inductive Unescapes : List Char → List Char → Prop where
  | nil : Unescapes [] []
  | plain {c : Char} {cs text : List Char} (plain : c ≠ '\\') (more : Unescapes cs text) :
      Unescapes (c :: cs) (c :: text)
  | simple {e c : Char} {cs text : List Char} (escape : simpleEscape? e = some c)
      (more : Unescapes cs text) : Unescapes ('\\' :: e :: cs) (c :: text)
  | code {a b c d : Char} {n : Nat} {cs text : List Char}
      (number : Hex.number? [a, b, c, d] = some n)
      (whole : isHighSurrogate n = false ∧ isLowSurrogate n = false) (more : Unescapes cs text) :
      Unescapes ('\\' :: 'u' :: a :: b :: c :: d :: cs) (Char.ofNat n :: text)
  | pair {a b c d a' b' c' d' : Char} {high low : Nat} {cs text : List Char}
      (first : Hex.number? [a, b, c, d] = some high) (isHigh : isHighSurrogate high)
      (second : Hex.number? [a', b', c', d'] = some low) (isLow : isLowSurrogate low)
      (more : Unescapes cs text) :
      Unescapes ('\\' :: 'u' :: a :: b :: c :: d :: '\\' :: 'u' :: a' :: b' :: c' :: d' :: cs)
        (Char.ofNat (pairCode high low) :: text)

theorem unescapes_of_eq_some {cs text : List Char} (h : unescape? cs = some text) :
    Unescapes cs text := by
  fun_induction unescape? cs generalizing text with
  | case1 =>
      cases h
      exact .nil
  | case4 a b c d high hfirst hhigh a' b' c' d' after low hsecond hlow ih =>
      obtain ⟨more, hmore, rfl⟩ := Option.map_eq_some_iff.mp h
      exact .pair hfirst hhigh hsecond hlow (ih hmore)
  | case8 a b c d rest n hnumber hhigh hlow ih =>
      obtain ⟨more, hmore, rfl⟩ := Option.map_eq_some_iff.mp h
      exact .code hnumber ⟨eq_false_of_ne_true hhigh, eq_false_of_ne_true hlow⟩ (ih hmore)
  | case9 e rest _ c hescape ih =>
      obtain ⟨more, hmore, rfl⟩ := Option.map_eq_some_iff.mp h
      exact .simple hescape (ih hmore)
  | case12 c rest _ _ hplain ih =>
      obtain ⟨more, hmore, rfl⟩ := Option.map_eq_some_iff.mp h
      exact .plain hplain (ih hmore)
  | _ => cases h

theorem Unescapes.eq_some {cs text : List Char} (h : Unescapes cs text) :
    unescape? cs = some text := by
  induction h with
  | nil => rfl
  | plain plain more ih => rw [unescape?_cons_plain plain, ih, Option.map_some]
  | simple escape more ih =>
      rw [unescape?, escape]
      · simp [ih]
      · rintro _ _ _ _ _ rfl
        cases escape
  | code number whole more ih =>
      rw [unescape?, number]
      simp [whole.1, whole.2, ih]
  | pair first isHigh second isLow more ih =>
      rw [unescape?, first]
      simp [isHigh, second, isLow, ih]

/-- The body of a string says a text: it is the UTF-8 of what stands for the text. -/
def Says (body : Bytes) (text : String) : Prop :=
  ∃ written, body = Utf8.bytes written ∧ Unescapes written text.toList

/-- **Strings.**  What is read of the body of a string is what it says. -/
theorem bodyText?_eq_some_iff {body : Bytes} {text : String} :
    bodyText? body = some text ↔ Says body text := by
  simp only [bodyText?, bind, pure, Option.bind_eq_some_iff, Option.some.injEq]
  constructor
  · rintro ⟨written, hwritten, unescaped, hunescaped, rfl⟩
    refine ⟨_, Utf8.decode?_eq_some_iff.mp hwritten, ?_⟩
    rw [String.toList_ofList]
    exact unescapes_of_eq_some hunescaped
  · rintro ⟨written, rfl, hunescapes⟩
    refine ⟨.ofList written, ?_, text.toList, ?_, String.ofList_toList⟩
    · rw [Utf8.decode?_eq_some_iff, String.toList_ofList]
    · rw [String.toList_ofList]
      exact hunescapes.eq_some

theorem says_textBody (s : String) : Says (textBody s) s :=
  bodyText?_eq_some_iff.mp (bodyText?_textBody s)

/-- A body says something if it is read as anything. -/
theorem bodyText?_isSome_iff {body : Bytes} : (bodyText? body).isSome ↔ ∃ text, Says body text := by
  simp only [Option.isSome_iff_exists, bodyText?_eq_some_iff]

/-- Every string in a value says something, the keys of objects included. -/
inductive Readable : Json → Prop where
  | null : Readable .null
  | bool (b : Bool) : Readable (.bool b)
  | number (digits : Bytes) : Readable (.number digits)
  | string {body : Bytes} {text : String} (meaning : Says body text) : Readable (.string body)
  | array {items : List Json} (each : ∀ item ∈ items, Readable item) : Readable (.array items)
  | object {fields : List (Bytes × Json)} (keys : ∀ field ∈ fields, ∃ name, Says field.1 name)
      (values : ∀ field ∈ fields, Readable field.2) : Readable (.object fields)

end Json

end SnapshotEngine
