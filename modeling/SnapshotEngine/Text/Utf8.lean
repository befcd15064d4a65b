/-!
# UTF-8

A text travels as bytes.  One reader takes the first character off a byte
sequence and says, when there is none, where reading may resume: after the
longest piece that could have begun a character.  The strict decoder gives up
there; the lenient one, used for the output of programs and the bodies of
rejections, writes U+FFFD for the piece and goes on.

* `readChar_encodeChar` — the bytes of a character are read back as that
  character;
* `decode?_encode` — so the bytes of a text decode to that text;
* `decodeLossy_of_decode?` — and wherever there is a text, the lenient decoder gives it;
* `bytes_inj`, `toNat_eq_of_mem_encodeChar` — what the bytes tell of the characters.
-/

namespace SnapshotEngine

/-- A byte sequence. -/
abbrev Bytes := List UInt8

namespace Utf8

/-- The bytes of one character. -/
def encodeChar (c : Char) : Bytes :=
  let n := c.toNat
  if n < 0x80 then [UInt8.ofNat n]
  else if n < 0x800 then [UInt8.ofNat (0xC0 + n / 0x40), UInt8.ofNat (0x80 + n % 0x40)]
  else if n < 0x10000 then
    [UInt8.ofNat (0xE0 + n / 0x1000), UInt8.ofNat (0x80 + n / 0x40 % 0x40),
      UInt8.ofNat (0x80 + n % 0x40)]
  else
    [UInt8.ofNat (0xF0 + n / 0x40000), UInt8.ofNat (0x80 + n / 0x1000 % 0x40),
      UInt8.ofNat (0x80 + n / 0x40 % 0x40), UInt8.ofNat (0x80 + n % 0x40)]

/-- The bytes of a text. -/
def encode (s : String) : Bytes :=
  s.toList.flatMap encodeChar

/-- What the first byte of a longer character announces: its own share of the
code, how many bytes follow, and the range of the first of them. -/
structure Lead where
  share : Nat
  following : Nat
  low : Nat
  high : Nat

/-- The lead bytes.  The range of the second byte keeps out codes that have a
shorter form, the surrogates, and everything above U+10FFFF. -/
def lead? (n : Nat) : Option Lead :=
  if 0xC2 ≤ n ∧ n ≤ 0xDF then some ⟨n - 0xC0, 1, 0x80, 0xBF⟩
  else if n = 0xE0 then some ⟨0, 2, 0xA0, 0xBF⟩
  else if n = 0xED then some ⟨0xD, 2, 0x80, 0x9F⟩
  else if 0xE1 ≤ n ∧ n ≤ 0xEF then some ⟨n - 0xE0, 2, 0x80, 0xBF⟩
  else if n = 0xF0 then some ⟨0, 3, 0x90, 0xBF⟩
  else if n = 0xF4 then some ⟨4, 3, 0x80, 0x8F⟩
  else if 0xF1 ≤ n ∧ n ≤ 0xF3 then some ⟨n - 0xF0, 3, 0x80, 0xBF⟩
  else none

/-- Reads the bytes that follow a lead byte, the first of them in the given
range.  A failure gives the bytes at which reading resumes. -/
def readTail (low high : Nat) : Nat → Nat → Bytes → Except Bytes (Nat × Bytes)
  | 0, code, bs => .ok (code, bs)
  | _ + 1, _, [] => .error []
  | following + 1, code, b :: bs =>
      if low ≤ b.toNat ∧ b.toNat ≤ high then
        readTail 0x80 0xBF following (code * 0x40 + (b.toNat - 0x80)) bs
      else .error (b :: bs)

/-- Takes the first character off a byte sequence that starts with `b`. -/
def readChar (b : UInt8) (bs : Bytes) : Except Bytes (Char × Bytes) :=
  if b.toNat < 0x80 then .ok (Char.ofNat b.toNat, bs)
  else
    match lead? b.toNat with
    | none => .error bs
    | some lead =>
        match readTail lead.low lead.high lead.following lead.share bs with
        | .ok (code, rest) => .ok (Char.ofNat code, rest)
        | .error rest => .error rest

/-- Decodes at most `fuel` characters, strictly. -/
def decodeUpTo : Nat → Bytes → Option (List Char)
  | _, [] => some []
  | 0, _ :: _ => none
  | fuel + 1, b :: bs =>
      match readChar b bs with
      | .ok (c, rest) => (decodeUpTo fuel rest).map (c :: ·)
      | .error _ => none

/-- The text of a byte sequence, if it is UTF-8. -/
def decode? (bs : Bytes) : Option String :=
  (decodeUpTo bs.length bs).map String.ofList

/-- The character that stands for an ill-formed piece. -/
def replacement : Char := '\uFFFD'

/-- Decodes at most `fuel` characters and ill-formed pieces. -/
def decodeLossyUpTo : Nat → Bytes → List Char
  | _, [] => []
  | 0, _ :: _ => []
  | fuel + 1, b :: bs =>
      match readChar b bs with
      | .ok (c, rest) => c :: decodeLossyUpTo fuel rest
      | .error rest => replacement :: decodeLossyUpTo fuel rest

/-- The text of a byte sequence, with U+FFFD for each ill-formed piece. -/
def decodeLossy (bs : Bytes) : String :=
  String.ofList (decodeLossyUpTo bs.length bs)

theorem toNat_ofNat_byte {n : Nat} (h : n < 0x100) : (UInt8.ofNat n).toNat = n := by
  simpa [UInt8.toNat_ofNat'] using Nat.mod_eq_of_lt h

theorem readTail_zero (low high code : Nat) (bs : Bytes) :
    readTail low high 0 code bs = .ok (code, bs) := by
  unfold readTail
  rfl

theorem readTail_succ {low high following code n : Nat} {bs : Bytes} (hlow : low ≤ n)
    (hhigh : n ≤ high) (h : n < 0x100) :
    readTail low high (following + 1) code (UInt8.ofNat n :: bs) =
      readTail 0x80 0xBF following (code * 0x40 + (n - 0x80)) bs := by
  rw [readTail, toNat_ofNat_byte h, if_pos ⟨hlow, hhigh⟩]

theorem toNat_bounds (c : Char) : c.toNat < 0xD800 ∨ (0xDFFF < c.toNat ∧ c.toNat < 0x110000) :=
  c.valid

/-- The first byte of a character of three announces two more, and allows for the next. -/
theorem lead?_of_three {n : Nat} (hlow : 0x800 ≤ n) (hhigh : n < 0x10000)
    (hvalid : n < 0xD800 ∨ 0xDFFF < n) :
    ∃ lead, lead? (0xE0 + n / 0x1000) = some lead ∧ lead.share = n / 0x1000 ∧
      lead.following = 2 ∧ lead.low ≤ 0x80 + n / 0x40 % 0x40 ∧
      0x80 + n / 0x40 % 0x40 ≤ lead.high := by
  unfold lead?
  rw [if_neg (by omega)]
  split
  · exact ⟨_, rfl, by simp only; omega, rfl, by simp only; omega, by simp only; omega⟩
  split
  · exact ⟨_, rfl, by simp only; omega, rfl, by simp only; omega, by simp only; omega⟩
  rw [if_pos (by omega)]
  exact ⟨_, rfl, by simp only; omega, rfl, by simp only; omega, by simp only; omega⟩

/-- The first byte of a character of four announces three more, and allows for the next. -/
theorem lead?_of_four {n : Nat} (hlow : 0x10000 ≤ n) (hhigh : n < 0x110000) :
    ∃ lead, lead? (0xF0 + n / 0x40000) = some lead ∧ lead.share = n / 0x40000 ∧
      lead.following = 3 ∧ lead.low ≤ 0x80 + n / 0x1000 % 0x40 ∧
      0x80 + n / 0x1000 % 0x40 ≤ lead.high := by
  unfold lead?
  rw [if_neg (by omega), if_neg (by omega), if_neg (by omega), if_neg (by omega)]
  split
  · exact ⟨_, rfl, by simp only; omega, rfl, by simp only; omega, by simp only; omega⟩
  split
  · exact ⟨_, rfl, by simp only; omega, rfl, by simp only; omega, by simp only; omega⟩
  rw [if_pos (by omega)]
  exact ⟨_, rfl, by simp only; omega, rfl, by simp only; omega, by simp only; omega⟩

/-- A longer character is read by its lead and the bytes that follow it. -/
theorem readChar_of_lead {n code : Nat} {lead : Lead} {bs rest : Bytes} (hlow : 0x80 ≤ n)
    (hhigh : n < 0x100) (hlead : lead? n = some lead)
    (htail : readTail lead.low lead.high lead.following lead.share bs = .ok (code, rest)) :
    readChar (UInt8.ofNat n) bs = .ok (Char.ofNat code, rest) := by
  rw [readChar, toNat_ofNat_byte hhigh, if_neg (by omega), hlead]
  simp only [htail]

/-- The bytes of a character are read back as that character. -/
theorem readChar_encodeChar (c : Char) (rest : Bytes) :
    ∃ b bs, encodeChar c ++ rest = b :: bs ∧ readChar b bs = .ok (c, rest) := by
  have hbounds := toNat_bounds c
  have hself : Char.ofNat c.toNat = c := Char.ofNat_toNat c
  generalize hn : c.toNat = n at hbounds hself
  unfold encodeChar
  rw [hn]
  by_cases h1 : n < 0x80
  · refine ⟨UInt8.ofNat n, rest, by simp [h1], ?_⟩
    rw [readChar, toNat_ofNat_byte (by omega), if_pos h1, hself]
  by_cases h2 : n < 0x800
  · refine ⟨UInt8.ofNat (0xC0 + n / 0x40), UInt8.ofNat (0x80 + n % 0x40) :: rest,
      by simp [h1, h2], ?_⟩
    have hlead : lead? (0xC0 + n / 0x40) = some ⟨n / 0x40, 1, 0x80, 0xBF⟩ := by
      rw [lead?, if_pos (by omega)]
      simp
    have htail : readTail 0x80 0xBF 1 (n / 0x40) (UInt8.ofNat (0x80 + n % 0x40) :: rest) =
        .ok (n, rest) := by
      rw [readTail_succ (by omega) (by omega) (by omega), readTail_zero]
      simp only [Except.ok.injEq, Prod.mk.injEq, and_true]
      omega
    rw [readChar_of_lead (by omega) (by omega) hlead htail, hself]
  by_cases h3 : n < 0x10000
  · refine ⟨UInt8.ofNat (0xE0 + n / 0x1000), UInt8.ofNat (0x80 + n / 0x40 % 0x40) ::
      UInt8.ofNat (0x80 + n % 0x40) :: rest, by simp [h1, h2, h3], ?_⟩
    obtain ⟨lead, hlead, hshare, hfollowing, hlow, hhigh⟩ :=
      lead?_of_three (Nat.le_of_not_lt h2) h3 (hbounds.imp_right And.left)
    have htail : readTail lead.low lead.high lead.following lead.share
        (UInt8.ofNat (0x80 + n / 0x40 % 0x40) :: UInt8.ofNat (0x80 + n % 0x40) :: rest) =
          .ok (n, rest) := by
      rw [hfollowing, hshare, readTail_succ hlow hhigh (by omega),
        readTail_succ (by omega) (by omega) (by omega), readTail_zero]
      simp only [Except.ok.injEq, Prod.mk.injEq, and_true]
      omega
    rw [readChar_of_lead (by omega) (by omega) hlead htail, hself]
  · refine ⟨UInt8.ofNat (0xF0 + n / 0x40000), UInt8.ofNat (0x80 + n / 0x1000 % 0x40) ::
      UInt8.ofNat (0x80 + n / 0x40 % 0x40) :: UInt8.ofNat (0x80 + n % 0x40) :: rest,
      by simp [h1, h2, h3], ?_⟩
    obtain ⟨lead, hlead, hshare, hfollowing, hlow, hhigh⟩ :=
      lead?_of_four (Nat.le_of_not_lt h3) (by omega)
    have htail : readTail lead.low lead.high lead.following lead.share
        (UInt8.ofNat (0x80 + n / 0x1000 % 0x40) :: UInt8.ofNat (0x80 + n / 0x40 % 0x40) ::
          UInt8.ofNat (0x80 + n % 0x40) :: rest) = .ok (n, rest) := by
      rw [hfollowing, hshare, readTail_succ hlow hhigh (by omega),
        readTail_succ (by omega) (by omega) (by omega),
        readTail_succ (by omega) (by omega) (by omega), readTail_zero]
      simp only [Except.ok.injEq, Prod.mk.injEq, and_true]
      omega
    rw [readChar_of_lead (by omega) (by omega) hlead htail, hself]

theorem length_encodeChar_pos (c : Char) : 0 < (encodeChar c).length := by
  obtain ⟨b, bs, hbytes, _⟩ := readChar_encodeChar c []
  have hlength := congrArg List.length hbytes
  simp only [List.append_nil, List.length_cons] at hlength
  omega

theorem decodeUpTo_flatMap (cs : List Char) (fuel : Nat)
    (h : (cs.flatMap encodeChar).length ≤ fuel) :
    decodeUpTo fuel (cs.flatMap encodeChar) = some cs := by
  induction cs generalizing fuel with
  | nil => cases fuel <;> rfl
  | cons c cs ih =>
      obtain ⟨b, bs, hbytes, hread⟩ := readChar_encodeChar c (cs.flatMap encodeChar)
      have hpos := length_encodeChar_pos c
      simp only [List.flatMap_cons, List.length_append] at h
      cases fuel with
      | zero => omega
      | succ fuel =>
          rw [List.flatMap_cons, hbytes, decodeUpTo, hread]
          simp only
          rw [ih fuel (by omega)]
          rfl

/-- Where the strict decoder does not give up, the lenient one agrees with it. -/
theorem decodeLossyUpTo_eq {fuel : Nat} {bs : Bytes} {cs : List Char}
    (h : decodeUpTo fuel bs = some cs) : decodeLossyUpTo fuel bs = cs := by
  induction fuel generalizing bs cs with
  | zero =>
      cases bs with
      | nil =>
          cases h
          rfl
      | cons b bs => cases h
  | succ fuel ih =>
      cases bs with
      | nil =>
          cases h
          rfl
      | cons b bs =>
          rw [decodeUpTo] at h
          rw [decodeLossyUpTo]
          cases hread : readChar b bs with
          | error rest =>
              rw [hread] at h
              cases h
          | ok read =>
              rw [hread] at h
              obtain ⟨more, hmore, rfl⟩ := Option.map_eq_some_iff.mp h
              exact congrArg (read.1 :: ·) (ih hmore)

/-- The bytes of a text decode to that text. -/
theorem decode?_encode (s : String) : decode? (encode s) = some s := by
  rw [decode?, encode, decodeUpTo_flatMap _ _ (Nat.le_refl _)]
  simp

/-- A byte sequence that is UTF-8 is the same text to the lenient decoder. -/
theorem decodeLossy_of_decode? {bs : Bytes} {s : String} (h : decode? bs = some s) :
    decodeLossy bs = s := by
  obtain ⟨cs, hcs, rfl⟩ := Option.map_eq_some_iff.mp h
  rw [decodeLossy, decodeLossyUpTo_eq hcs]

/-- The bytes of a text are that text to the lenient decoder too. -/
theorem decodeLossy_encode (s : String) : decodeLossy (encode s) = s :=
  decodeLossy_of_decode? (decode?_encode s)

/-- The bytes of some characters. -/
def bytes (cs : List Char) : Bytes := cs.flatMap encodeChar

@[simp] theorem bytes_nil : bytes [] = [] := rfl

@[simp] theorem bytes_cons (c : Char) (cs : List Char) :
    bytes (c :: cs) = encodeChar c ++ bytes cs := List.flatMap_cons

@[simp] theorem bytes_append (cs ds : List Char) : bytes (cs ++ ds) = bytes cs ++ bytes ds :=
  List.flatMap_append

/-- Texts with the same bytes are the same. -/
theorem bytes_inj {cs ds : List Char} (h : bytes cs = bytes ds) : cs = ds := by
  have hdecode := congrArg (fun bs => decodeUpTo bs.length bs) h
  simp only [bytes, decodeUpTo_flatMap _ _ (Nat.le_refl _)] at hdecode
  exact Option.some.inj hdecode

/-- Every character that is left out is a byte less. -/
theorem length_bytes_of_sublist {cs ds : List Char} (h : cs.Sublist ds) :
    (bytes cs).length + ds.length ≤ (bytes ds).length + cs.length := by
  induction h with
  | slnil => exact Nat.le_refl _
  | cons d _ ih =>
      have hpos := length_encodeChar_pos d
      simp only [bytes_cons, List.length_append, List.length_cons] at ih ⊢
      omega
  | cons_cons d _ ih =>
      simp only [bytes_cons, List.length_append, List.length_cons] at ih ⊢
      omega

/-- A text from which nothing is left out but bytes are all there is the whole text. -/
theorem eq_of_sublist_of_length_bytes {cs ds : List Char} (h : cs.Sublist ds)
    (hlength : (bytes ds).length ≤ (bytes cs).length) : cs = ds := by
  refine h.eq_of_length_le ?_
  have hmissing := length_bytes_of_sublist h
  omega

/-- A byte of ASCII in a character is the character. -/
theorem toNat_eq_of_mem_encodeChar {c : Char} {b : UInt8} (hmem : b ∈ encodeChar c)
    (hb : b.toNat < 0x80) : c.toNat = b.toNat := by
  have hbounds := toNat_bounds c
  have hlarge : ∀ n, 0x80 ≤ n → n < 0x100 → b = UInt8.ofNat n → False := by
    rintro n hlow hhigh rfl
    rw [toNat_ofNat_byte hhigh] at hb
    omega
  unfold encodeChar at hmem
  generalize c.toNat = n at hmem hbounds ⊢
  simp only at hmem
  split at hmem
  · rw [List.mem_singleton] at hmem
    rw [hmem, toNat_ofNat_byte (by omega)]
  · exfalso
    split at hmem
    · simp only [List.mem_cons, List.not_mem_nil, or_false] at hmem
      rcases hmem with h | h <;> exact hlarge _ (by omega) (by omega) h
    · split at hmem <;> simp only [List.mem_cons, List.not_mem_nil, or_false] at hmem
      · rcases hmem with h | h | h <;> exact hlarge _ (by omega) (by omega) h
      · rcases hmem with h | h | h | h <;> exact hlarge _ (by omega) (by omega) h

end Utf8

end SnapshotEngine
