import SnapshotEngine.Text.Hex
import SnapshotEngine.Text.Utf8

/-!
# Percent-encoding

A byte that must not stand in a part of a URL is written as a percent sign and
two upper-case hexadecimal digits.  Which bytes may stand there differs from
part to part.  A percent sign that is not followed by two digits stands for
itself.

* `decode_encode` — where the percent sign itself is written that way, the bytes
  are read back.
-/

namespace SnapshotEngine.Percent

/-- The character with the code of a byte. -/
def charOf (b : UInt8) : Char := Char.ofNat b.toNat

/-- A byte as a percent sign and two digits. -/
def escapeByte (b : UInt8) : List Char :=
  ['%', Hex.upperDigit (b.toNat / 16), Hex.upperDigit (b.toNat % 16)]

/-- The text of bytes of which some may stand as they are. -/
def encode (kept : UInt8 → Bool) (bs : Bytes) : List Char :=
  bs.flatMap fun b => if kept b then [charOf b] else escapeByte b

/-- The bytes that a text stands for. -/
def decode : List Char → Bytes
  | [] => []
  | '%' :: a :: b :: rest =>
      match Hex.value? a, Hex.value? b with
      | some high, some low => UInt8.ofNat (high * 16 + low) :: decode rest
      | _, _ => 0x25 :: decode (a :: b :: rest)
  | c :: rest => Utf8.encodeChar c ++ decode rest

theorem decode_escapeByte_append (b : UInt8) (rest : List Char) :
    decode (escapeByte b ++ rest) = b :: decode rest := by
  have hb : b.toNat < 256 := b.toNat_lt
  have hhigh : Hex.value? (Hex.upperDigit (b.toNat / 16)) = some (b.toNat / 16) :=
    Hex.value?_upperDigit (by omega)
  have hlow : Hex.value? (Hex.upperDigit (b.toNat % 16)) = some (b.toNat % 16) :=
    Hex.value?_upperDigit (by omega)
  have hback : UInt8.ofNat (b.toNat / 16 * 16 + b.toNat % 16) = b := by
    have hsum : b.toNat / 16 * 16 + b.toNat % 16 = b.toNat := by omega
    rw [hsum]
    simp
  simp only [escapeByte, List.cons_append, List.nil_append, decode, hhigh, hlow, hback]

theorem decode_cons {c : Char} (h : c ≠ '%') (rest : List Char) :
    decode (c :: rest) = Utf8.encodeChar c ++ decode rest := by
  rw [decode.eq_def]
  split
  · rename_i heq
    cases heq
  · rename_i heq
    cases heq
    exact absurd rfl h
  · rename_i heq
    cases heq
    rfl

theorem encodeChar_charOf {b : UInt8} (h : b.toNat < 0x80) :
    Utf8.encodeChar (charOf b) = [b] := by
  have hvalid : (charOf b).toNat = b.toNat := by
    have hall : ∀ k : Fin 0x80, (Char.ofNat k.val).toNat = k.val := by decide
    exact hall ⟨b.toNat, h⟩
  simp [Utf8.encodeChar, hvalid, h]

/-- The bytes are read back, as long as only ASCII characters stand as they are
and the percent sign is not one of them; what comes after them is read apart. -/
theorem decode_encode_append {kept : UInt8 → Bool} {bs : Bytes}
    (h : ∀ b ∈ bs, kept b = true → b.toNat < 0x80 ∧ b ≠ 0x25) (rest : List Char) :
    decode (encode kept bs ++ rest) = bs ++ decode rest := by
  induction bs with
  | nil => rfl
  | cons b more ih =>
      have hmore := fun b' hmem => h b' (List.mem_cons_of_mem _ hmem)
      have hsplit : encode kept (b :: more) ++ rest =
          (if kept b then [charOf b] else escapeByte b) ++ (encode kept more ++ rest) :=
        List.append_assoc ..
      rw [hsplit]
      by_cases hk : kept b
      · obtain ⟨hascii, hne⟩ := h b (List.mem_cons_self ..) hk
        have hchar : charOf b ≠ '%' := by
          intro heq
          have := encodeChar_charOf hascii
          rw [heq] at this
          exact hne (by simpa [Utf8.encodeChar] using this.symm)
        simp [hk, decode_cons hchar, encodeChar_charOf hascii, ih hmore]
      · simp [hk, decode_escapeByte_append, ih hmore]

/-- The bytes are read back. -/
theorem decode_encode {kept : UInt8 → Bool}
    (h : ∀ b, kept b = true → b.toNat < 0x80 ∧ b ≠ 0x25) (bs : Bytes) :
    decode (encode kept bs) = bs := by
  have happend := decode_encode_append (fun b (_ : b ∈ bs) => h b) []
  simpa [decode] using happend

end SnapshotEngine.Percent
