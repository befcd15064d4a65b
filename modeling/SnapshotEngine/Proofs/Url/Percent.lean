import SnapshotEngine.Url.Path

/-!
# Text that is percent-decoded

A percent sign with two hexadecimal digits after it is one byte, and every other character
is its own bytes.  So decoding never makes a text longer than its bytes, and gives back its
bytes exactly if there is no such escape in it.

* `hasEscape`, `decode_eq_bytes_iff` — which texts are decoded to themselves;
* `decode_append_cons` — a character that is no digit separates what is decoded;
* `decode_encodeSegment` — what is done to a segment of a path does not show.
-/

namespace SnapshotEngine

namespace Percent

/-- Whether a text starts with two hexadecimal digits. -/
def startsWithDigits : List Char → Bool
  | a :: b :: _ => (Hex.value? a).isSome && (Hex.value? b).isSome
  | _ => false

/-- Whether a percent sign has two hexadecimal digits after it. -/
def hasEscape : List Char → Bool
  | [] => false
  | c :: rest => (c = '%' && startsWithDigits rest) || hasEscape rest

theorem startsWithDigits_of_head {c : Char} {cs : List Char} (h : cs.head? = some c)
    (hc : Hex.value? c = none) : startsWithDigits cs = false := by
  match cs, h with
  | [_], _ => rfl
  | _ :: _ :: _, rfl => simp [startsWithDigits, hc]

/-- A percent sign with two digits after it is one byte, whatever comes then. -/
theorem decode_escape {a b : Char} {rest : List Char}
    (h : startsWithDigits (a :: b :: rest) = true) :
    ∃ byte, ∀ more, decode ('%' :: a :: b :: more) = byte :: decode more := by
  simp only [startsWithDigits, Bool.and_eq_true, Option.isSome_iff_exists] at h
  obtain ⟨⟨high, hhigh⟩, low, hlow⟩ := h
  exact ⟨UInt8.ofNat (high * 16 + low), fun more => by simp only [decode, hhigh, hlow]⟩

/-- Any other percent sign stands for itself. -/
theorem decode_percent {rest : List Char} (h : startsWithDigits rest = false) :
    decode ('%' :: rest) = Utf8.encodeChar '%' ++ decode rest := by
  match rest, h with
  | [], _ => rfl
  | [a], _ => rfl
  | a :: b :: rest, h =>
      rw [decode]
      split
      · rename_i hhigh hlow
        simp [startsWithDigits, hhigh, hlow] at h
      · rfl

/-- A character stands for its bytes, unless it is the percent sign of an escape. -/
theorem decode_cons_of_plain {c : Char} {rest : List Char}
    (h : (c = '%' && startsWithDigits rest) = false) :
    decode (c :: rest) = Utf8.encodeChar c ++ decode rest := by
  by_cases hc : c = '%'
  · subst hc
    exact decode_percent (by simpa using h)
  · exact decode_cons hc rest

/-- Decoding takes a text character by character, but for the escapes. -/
theorem decode_induction {P : List Char → Prop} (nil : P [])
    (plain : ∀ c rest, (c = '%' && startsWithDigits rest) = false → P rest → P (c :: rest))
    (escape : ∀ a b rest, startsWithDigits (a :: b :: rest) = true → P rest →
      P ('%' :: a :: b :: rest)) (cs : List Char) : P cs := by
  induction hlength : cs.length using Nat.strongRecOn generalizing cs with
  | _ n ih =>
      cases cs with
      | nil => exact nil
      | cons c rest =>
          cases hstarts : (c = '%' && startsWithDigits rest) with
          | false => exact plain c rest hstarts (ih rest.length (by simp [← hlength]) rest rfl)
          | true =>
              obtain ⟨hc, hdigits⟩ := Bool.and_eq_true_iff.mp hstarts
              cases of_decide_eq_true hc
              match rest, hdigits with
              | a :: b :: rest, hdigits =>
                  refine escape a b rest hdigits (ih rest.length ?_ rest rfl)
                  simp only [List.length_cons] at hlength
                  omega

/-- Decoding is no longer than the bytes, and shorter if there is an escape. -/
theorem length_decode_le (cs : List Char) :
    (decode cs).length + (if hasEscape cs then 1 else 0) ≤ (Utf8.bytes cs).length := by
  induction cs using decode_induction with
  | nil => simp [decode, hasEscape]
  | plain c rest hplain ih =>
      rw [decode_cons_of_plain hplain, hasEscape, hplain, Bool.false_or]
      simp only [Utf8.bytes_cons, List.length_append] at ih ⊢
      omega
  | escape a b rest hdigits ih =>
      obtain ⟨byte, hdecode⟩ := decode_escape hdigits
      have ha := Utf8.length_encodeChar_pos a
      have hb := Utf8.length_encodeChar_pos b
      have hpercent := Utf8.length_encodeChar_pos '%'
      have hone : (if hasEscape ('%' :: a :: b :: rest) then 1 else 0) ≤ 1 := by split <;> omega
      rw [hdecode]
      simp only [Utf8.bytes_cons, List.length_append, List.length_cons] at ih ⊢
      omega

/-- **Escapes.**  A text is decoded to its bytes exactly if there is no escape in it. -/
theorem decode_eq_bytes_iff {cs : List Char} :
    decode cs = Utf8.bytes cs ↔ hasEscape cs = false := by
  constructor
  · intro h
    have hlength := length_decode_le cs
    rw [h] at hlength
    cases hescape : hasEscape cs with
    | false => rfl
    | true =>
        rw [hescape, if_pos rfl] at hlength
        omega
  · intro h
    induction cs with
    | nil => rfl
    | cons c rest ih =>
        obtain ⟨hplain, hrest⟩ := Bool.or_eq_false_iff.mp h
        rw [decode_cons_of_plain hplain, ih hrest]
        rfl

/-- A character that is no digit is no part of an escape before it. -/
theorem startsWithDigits_append_cons {c : Char} (hc : Hex.value? c = none) (cs rest : List Char) :
    startsWithDigits (cs ++ c :: rest) = startsWithDigits cs := by
  match cs with
  | [] => cases rest <;> simp [startsWithDigits, hc]
  | [a] => simp [startsWithDigits, hc]
  | a :: b :: more => rfl

/-- **Marks.**  What stands before a character that is no digit, and no percent sign, is
decoded apart from what stands after it. -/
theorem decode_append_cons {c : Char} (hc : Hex.value? c = none) (hne : c ≠ '%')
    (cs rest : List Char) :
    decode (cs ++ c :: rest) = decode cs ++ (Utf8.encodeChar c ++ decode rest) := by
  induction cs using decode_induction with
  | nil => exact decode_cons hne rest
  | plain d more hplain ih =>
      have hplain' : (d = '%' && startsWithDigits (more ++ c :: rest)) = false := by
        rw [startsWithDigits_append_cons hc]
        exact hplain
      rw [List.cons_append, decode_cons_of_plain hplain, decode_cons_of_plain hplain', ih,
        List.append_assoc]
  | escape a b more hdigits ih =>
      obtain ⟨byte, hdecode⟩ := decode_escape hdigits
      simp only [List.cons_append, hdecode, ih]

/-- Without a percent sign there is no escape, and none begins before it. -/
theorem hasEscape_append {cs : List Char} (h : '%' ∉ cs) (ds : List Char) :
    hasEscape (cs ++ ds) = hasEscape ds := by
  induction cs with
  | nil => rfl
  | cons c cs ih =>
      have hc : c ≠ '%' := fun heq => h (heq ▸ List.mem_cons_self ..)
      have hcs : '%' ∉ cs := fun hmem => h (List.mem_cons_of_mem _ hmem)
      rw [List.cons_append, hasEscape, decide_eq_false hc, Bool.false_and, Bool.false_or, ih hcs]

end Percent

namespace UrlPath

/-- A character as it stands in a segment. -/
def encodeChar (c : Char) : List Char := Percent.encode isPlain (Utf8.encodeChar c)

theorem encodeSegment_cons (c : Char) (cs : List Char) :
    encodeSegment (c :: cs) = encodeChar c ++ encodeSegment cs := by
  unfold encodeSegment encodeChar Percent.encode
  rw [List.flatMap_cons, List.flatMap_append]

/-- A character stands as it is in a segment, or there is a percent sign in place of it and
it is no digit. -/
theorem encodeChar_cases (c : Char) :
    encodeChar c = [c] ∨ ((encodeChar c).head? = some '%' ∧ Hex.value? c = none) := by
  by_cases hascii : c.toNat < 0x80
  · have hall : ∀ k : Fin 0x80, encodeChar (Char.ofNat k.val) = [Char.ofNat k.val] ∨
        ((encodeChar (Char.ofNat k.val)).head? = some '%' ∧
          Hex.value? (Char.ofNat k.val) = none) := by
      decide +kernel
    simpa using hall ⟨c.toNat, hascii⟩
  · right
    constructor
    · obtain ⟨b, bs, hbytes, _⟩ := Utf8.readChar_encodeChar c []
      rw [List.append_nil] at hbytes
      have hb : ¬ b.toNat < 0x80 := fun hlt =>
        hascii (Utf8.toNat_eq_of_mem_encodeChar (hbytes ▸ List.mem_cons_self ..) hlt ▸ hlt)
      have hplain : isPlain b = false := by
        simp only [isPlain, Bool.and_eq_false_iff, decide_eq_false_iff_not]
        omega
      rw [encodeChar, hbytes, Percent.encode, List.flatMap_cons, hplain]
      rfl
    · unfold Hex.value?
      rw [if_neg (by omega), if_neg (by omega), if_neg (by omega)]

/-- Digits stand as they are, and nothing else turns into one. -/
theorem startsWithDigits_encodeSegment (cs : List Char) :
    Percent.startsWithDigits (encodeSegment cs) = Percent.startsWithDigits cs := by
  cases cs with
  | nil => rfl
  | cons a rest =>
      rw [encodeSegment_cons]
      rcases encodeChar_cases a with ha | ⟨ha, hnone⟩
      · rw [ha]
        cases rest with
        | nil => rfl
        | cons b more =>
            rw [encodeSegment_cons]
            rcases encodeChar_cases b with hb | ⟨hb, hnone⟩
            · rw [hb]
              rfl
            · obtain ⟨tail, htail⟩ := List.head?_eq_some_iff.mp hb
              have hpercent : Hex.value? '%' = none := rfl
              rw [htail]
              simp [Percent.startsWithDigits, hnone, hpercent]
      · obtain ⟨tail, htail⟩ := List.head?_eq_some_iff.mp ha
        have hpercent : Hex.value? '%' = none := rfl
        rw [htail, Percent.startsWithDigits_of_head rfl hpercent,
          Percent.startsWithDigits_of_head rfl hnone]

/-- **Segments.**  What stands in a segment is decoded like the segment that was given. -/
theorem decode_encodeSegment (cs : List Char) :
    Percent.decode (encodeSegment cs) = Percent.decode cs := by
  induction cs using Percent.decode_induction with
  | nil => rfl
  | plain c rest hplain ih =>
      rw [encodeSegment_cons, Percent.decode_cons_of_plain hplain, ← ih]
      by_cases hc : c = '%'
      · subst hc
        have hpercent : encodeChar '%' = ['%'] := by decide
        have hdigits : Percent.startsWithDigits (encodeSegment rest) = false := by
          rw [startsWithDigits_encodeSegment]
          simpa using hplain
        rw [hpercent]
        exact Percent.decode_percent hdigits
      · refine Percent.decode_encode_append (fun b hmem hkept => ?_) _
        have hsmall : b.toNat < 0x7F := by
          simp only [isPlain, Bool.and_eq_true, decide_eq_true_eq] at hkept
          omega
        refine ⟨by omega, ?_⟩
        rintro rfl
        have hcode := Utf8.toNat_eq_of_mem_encodeChar hmem (by decide)
        exact hc (Char.toNat_inj.mp hcode)
  | escape a b rest hdigits ih =>
      obtain ⟨byte, hdecode⟩ := Percent.decode_escape hdigits
      have hpercent : encodeChar '%' = ['%'] := by decide
      have hdigit : ∀ c, (Hex.value? c).isSome → encodeChar c = [c] := by
        intro c hsome
        rcases encodeChar_cases c with hc | ⟨_, hnone⟩
        · exact hc
        · simp [hnone] at hsome
      obtain ⟨ha, hb⟩ := Bool.and_eq_true_iff.mp hdigits
      rw [encodeSegment_cons, encodeSegment_cons, encodeSegment_cons, hpercent, hdigit a ha,
        hdigit b hb]
      simp only [List.cons_append, List.nil_append, hdecode, ih]

end UrlPath

end SnapshotEngine
