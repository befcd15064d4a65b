import SnapshotEngine.Proofs.Identifier.RoundTrip

/-!
# Which texts are identifiers

A text is read as an identifier exactly when it is two names around the separator,
of which neither is empty and the first neither holds the separator nor makes one of
the hyphen after it.  Every other text is malformed.  The second name may hold the
separator; then the two names are read, but would not be encoded.

* `decode_eq_ok_iff_parts` — the texts that are read, and as what;
* `decode_eq_malformed` — what becomes of the others;
* `encode_of_decode`, `decode_encode_of_opens` — reading before writing, and after;
* `identifiers_have_grammar` — all of it at once.
-/

namespace SnapshotEngine

namespace SnapshotId

/-- A name that is decoded first neither holds the separator nor makes one. -/
theorem free_of_decode {s volumeId backupName : String}
    (h : decode s = .ok (volumeId, backupName)) :
    ¬ separator.toList <:+: volumeId.toList ∧ ¬ OpensSeparator volumeId := by
  have hcut := (decode_eq_ok_iff.mp h).2
  constructor
  · intro hocc
    obtain ⟨tail, hpre, htail⟩ := List.infix_iff_prefix_suffix.mp hocc
    have hne : tail ≠ [] := by
      rintro rfl
      exact absurd (List.prefix_nil.mp hpre) (by decide)
    apply Text.not_isPrefix_of_cut hcut htail hne
    rw [List.append_assoc]
    exact hpre.trans (List.prefix_append tail _)
  · intro hopen
    apply Text.not_isPrefix_of_cut hcut hopen (by decide)
    rw [head_append_separator, List.append_assoc]
    exact List.prefix_append _ _

/-- **Reading.**  The texts that are decoded, and the names that each is decoded to. -/
theorem decode_eq_ok_iff_parts {s volumeId backupName : String} :
    decode s = .ok (volumeId, backupName) ↔
      s = volumeId ++ separator ++ backupName ∧ (volumeId ≠ "" ∧ backupName ≠ "") ∧
        ¬ separator.toList <:+: volumeId.toList ∧ ¬ OpensSeparator volumeId := by
  constructor
  · intro h
    exact ⟨append_of_decode h, (decode_eq_ok_iff.mp h).1, free_of_decode h⟩
  · rintro ⟨rfl, hne, hfree, hopen⟩
    refine decode_eq_ok_iff.mpr ⟨hne, ?_⟩
    rw [String.toList_append, String.toList_append]
    exact cut_separator hfree hopen

/-- A text that is not read is malformed, and is named as such. -/
theorem parse_eq_malformed {s : String} {cause : IdentifierError} (h : parse s = .error cause) :
    cause = .malformed s := by
  unfold parse at h
  split at h
  · cases h
    rfl
  · simp only at h
    split at h
    · cases h
      rfl
    split at h
    · cases h
      rfl
    · cases h

theorem decode_eq_malformed {s : String} (h : ∀ parts, decode s ≠ .ok parts) :
    decode s = .error (.malformed s) := by
  cases hparse : parse s with
  | ok id =>
      have hdecode : decode s = .ok (id.volumeId, id.backupName) := by rw [decode, hparse]; rfl
      exact absurd hdecode (h _)
  | error cause =>
      rw [decode, hparse, parse_eq_malformed hparse]
      rfl

/-- Names that were read are written as they were read, unless the separator is in the
second of them. -/
theorem encode_of_decode {s volumeId backupName : String}
    (h : decode s = .ok (volumeId, backupName)) :
    (encode volumeId backupName = .ok s ↔ ¬ separator.toList <:+: backupName.toList) ∧
      (separator.toList <:+: backupName.toList →
        encode volumeId backupName = .error (.containsSeparator .backupName backupName)) := by
  obtain ⟨htext, hne, hfree, _⟩ := decode_eq_ok_iff_parts.mp h
  constructor
  · rw [encode_eq_ok_iff]
    exact ⟨fun henc => henc.2.1.2, fun hback => ⟨hne, ⟨hfree, hback⟩, htext⟩⟩
  · intro hback
    have hvolume : holdsSeparator volumeId = false := by
      rw [← Bool.not_eq_true]
      exact mt Text.occurs_iff.mp hfree
    have hbackup : holdsSeparator backupName = true := Text.occurs_iff.mpr hback
    simp [encode, ofParts?, hne, hvolume, hbackup, Except.map]

/-- The identifier of a volume that makes a separator of its own is cut there. -/
theorem decode_encode_of_opens {stem backupName s : String}
    (h : encode (stem ++ separatorHead) backupName = .ok s) :
    decode s =
      if stem = "" then .error (.malformed s) else .ok (stem, separatorTail ++ backupName) := by
  obtain ⟨_, ⟨hfree, _⟩, htext⟩ := encode_eq_ok_iff.mp h
  rw [String.toList_append] at hfree
  have hcut : Text.cut separator.toList s.toList =
      some (stem.toList, (separatorTail ++ backupName).toList) := by
    rw [htext]
    simp only [String.toList_append]
    exact cut_separator_of_opens hfree
  split
  · rename_i hempty
    apply decode_eq_malformed
    rintro ⟨volumeId, rest⟩ hread
    obtain ⟨⟨hvolume, _⟩, hother⟩ := decode_eq_ok_iff.mp hread
    rw [hcut, Option.some.injEq, Prod.mk.injEq, String.toList_inj] at hother
    exact hvolume (hother.1.symm.trans hempty)
  · rename_i hstem
    refine decode_eq_ok_iff.mpr ⟨⟨hstem, fun hnone => ?_⟩, hcut⟩
    have hlen := congrArg String.length hnone
    have htail : separatorTail.length = 11 := by decide
    simp [htail] at hlen

/-- **The grammar of identifiers.**  A text is decoded exactly if it is two names that
are not empty around the separator, the first of which neither holds the separator nor
ends with all of it but the last hyphen; any other text is malformed.  What was parsed
has the text that it was parsed from, and that is parsed to it again; its names are
encoded exactly if the separator is not in the second of them, to that same text.  So
of the pairs that are encoded those are decoded again whose volume name does not end
like that; any other is decoded to what stands before that end, with the rest of it
before the backup name, or is malformed if nothing stands there. -/
theorem identifiers_have_grammar (s : String) :
    (∀ volumeId backupName, decode s = .ok (volumeId, backupName) ↔
      s = volumeId ++ separator ++ backupName ∧ (volumeId ≠ "" ∧ backupName ≠ "") ∧
        ¬ separator.toList <:+: volumeId.toList ∧ ¬ separatorHead.toList <:+ volumeId.toList) ∧
      ((∀ parts, decode s ≠ .ok parts) → decode s = .error (.malformed s)) ∧
      (∀ id, parse s = .ok id → id.text = s ∧ parse id.text = .ok id) ∧
      (∀ volumeId backupName, decode s = .ok (volumeId, backupName) →
        (encode volumeId backupName = .ok s ↔ ¬ separator.toList <:+: backupName.toList) ∧
          (separator.toList <:+: backupName.toList →
            encode volumeId backupName = .error (.containsSeparator .backupName backupName))) ∧
      ∀ volumeId backupName, encode volumeId backupName = .ok s →
        (decode s = .ok (volumeId, backupName) ↔
            ¬ separatorHead.toList <:+ volumeId.toList) ∧
          ∀ stem, volumeId = stem ++ separatorHead →
            decode s =
              if stem = "" then .error (.malformed s)
              else .ok (stem, separatorTail ++ backupName) := by
  refine ⟨fun _ _ => decode_eq_ok_iff_parts, decode_eq_malformed, ?_, ?_, ?_⟩
  · intro id hparse
    have htext := text_of_parse hparse
    exact ⟨htext, htext.symm ▸ hparse⟩
  · exact fun _ _ => encode_of_decode
  · intro volumeId backupName hencode
    constructor
    · exact ⟨fun hread => (free_of_decode hread).2, decode_of_encode hencode⟩
    · rintro stem rfl
      exact decode_encode_of_opens hencode

/-- A text with two separators, and one whose first separator was not put there. -/
theorem identifiers_have_grammar_daily :
    decode "a-velero-bkp-b-velero-bkp-c" = .ok ("a", "b-velero-bkp-c") ∧
      encode "a" "b-velero-bkp-c" =
        .error (.containsSeparator .backupName "b-velero-bkp-c") ∧
      encode "-velero-bkp" "full" = .ok "-velero-bkp-velero-bkp-full" ∧
      decode "-velero-bkp-velero-bkp-full" = .error (.malformed "-velero-bkp-velero-bkp-full") := by
  have htext : "a-velero-bkp-b-velero-bkp-c" = "a" ++ separator ++ "b-velero-bkp-c" := by decide
  have hfree : ¬ separator.toList <:+: "a".toList := mt Text.occurs_iff.mpr (by decide)
  have hread : decode "a-velero-bkp-b-velero-bkp-c" = .ok ("a", "b-velero-bkp-c") :=
    ((identifiers_have_grammar _).1 _ _).mpr ⟨htext, by decide, hfree, by decide⟩
  have hback : separator.toList <:+: "b-velero-bkp-c".toList := Text.occurs_iff.mp (by decide)
  have hwritten : encode "-velero-bkp" "full" = .ok "-velero-bkp-velero-bkp-full" := by decide
  have hmade : "-velero-bkp" = "" ++ separatorHead := by decide
  have hmalformed := ((identifiers_have_grammar _).2.2.2.2 _ _ hwritten).2 "" hmade
  rw [if_pos rfl] at hmalformed
  exact ⟨hread, ((identifiers_have_grammar _).2.2.2.1 _ _ hread).2 hback, hwritten, hmalformed⟩

end SnapshotId

end SnapshotEngine
