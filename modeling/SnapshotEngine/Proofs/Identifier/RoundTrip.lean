import Mathlib.Data.List.Basic
import SnapshotEngine.Identifier

/-!
# Identifiers read back

The separator begins and ends with the same hyphen.  A volume name may therefore
end with all of the separator but its last hyphen, and the hyphen that follows
the name then completes an occurrence that stands earlier than the one that was
put: the identifier is cut there.  No other occurrence straddles the joint, since
the hyphen is the only text that the separator both begins and ends with.

* `eq_separatorHead_of_straddle` — the one way in which an occurrence straddles;
* `cut_separator`, `cut_separator_of_opens` — where an identifier is cut;
* `decode_encode_iff` — which pairs are read back, and which pairs share an
  identifier.
-/

namespace SnapshotEngine

/-- The separator without its last hyphen. -/
def separatorHead : String := "-velero-bkp"

/-- The separator without its first hyphen. -/
def separatorTail : String := "velero-bkp-"

namespace SnapshotId

/-- A name that makes a separator of the hyphen after it. -/
def OpensSeparator (name : String) : Prop := separatorHead.toList <:+ name.toList

instance (name : String) : Decidable (OpensSeparator name) := by
  unfold OpensSeparator; infer_instance

/-- The separator overlaps itself in its hyphens. -/
theorem head_append_separator :
    separatorHead.toList ++ separator.toList = separator.toList ++ separatorTail.toList := by
  decide

/-- A text that the separator begins with and that it goes on with again after
some characters of it leaves only its last hyphen. -/
theorem eq_eleven_of_drop_prefix {k : Nat} (hpos : 0 < k) (hlt : k < separator.toList.length)
    (hdrop : separator.toList.drop k <+: separator.toList) : k = 11 := by
  have hall : ∀ j ∈ List.range separator.toList.length,
      0 < j → separator.toList.drop j <+: separator.toList → j = 11 := by decide
  exact hall k (List.mem_range.mpr hlt) hpos hdrop

/-- **Straddling.**  An occurrence of the separator that starts within a name
without the separator, and ends beyond it, has its whole head in the name. -/
theorem eq_separatorHead_of_straddle {name tail after : List Char}
    (hfree : ¬ separator.toList <:+: name) (htail : tail <:+ name) (hne : tail ≠ [])
    (hocc : separator.toList <+: tail ++ separator.toList ++ after) :
    tail = separatorHead.toList := by
  have hshort : tail.length < separator.toList.length := by
    by_contra hlong
    have hin : separator.toList <+: tail :=
      List.prefix_of_prefix_length_le hocc (by simp) (by omega)
    exact hfree (hin.isInfix.trans htail.isInfix)
  have hpre : tail <+: separator.toList :=
    List.prefix_of_prefix_length_le (by simp) hocc (by omega)
  have htake : tail = separator.toList.take tail.length := List.prefix_iff_eq_take.mp hpre
  obtain ⟨rest, hrest⟩ := hpre
  have hdrop : separator.toList.drop tail.length <+: separator.toList := by
    have hover : rest <+: separator.toList ++ after := by
      rw [← hrest, List.append_assoc, List.append_assoc] at hocc
      have hcancel := (List.prefix_append_right_inj tail).mp hocc
      rwa [← List.append_assoc, hrest] at hcancel
    have hlen : rest.length ≤ separator.toList.length := by
      rw [← hrest]
      simp
    have hin : rest <+: separator.toList :=
      List.prefix_of_prefix_length_le hover (by simp) hlen
    have hrestEq : separator.toList.drop tail.length = rest := by
      rw [← hrest]
      simp
    rwa [hrestEq]
  have hpos : 0 < tail.length := List.length_pos_iff.mpr hne
  have hlen : tail.length = 11 := eq_eleven_of_drop_prefix hpos hshort hdrop
  rw [htake, hlen]
  decide

/-- An identifier is cut where its separator was put, unless the volume name
makes a separator of its own. -/
theorem cut_separator {before after : List Char} (hfree : ¬ separator.toList <:+: before)
    (hopen : ¬ separatorHead.toList <:+ before) :
    Text.cut separator.toList (before ++ separator.toList ++ after) = some (before, after) := by
  apply Text.cut_append (by decide)
  intro tail htail hne hocc
  have htail' := eq_separatorHead_of_straddle hfree htail hne hocc
  exact hopen (htail' ▸ htail)

/-- If it does, the identifier is cut there. -/
theorem cut_separator_of_opens {stem after : List Char}
    (hfree : ¬ separator.toList <:+: stem ++ separatorHead.toList) :
    Text.cut separator.toList (stem ++ separatorHead.toList ++ separator.toList ++ after) =
      some (stem, separatorTail.toList ++ after) := by
  have hstem : ¬ separator.toList <:+: stem := fun h =>
    hfree (h.trans (List.prefix_append stem _).isInfix)
  have hopen : ¬ separatorHead.toList <:+ stem := by
    rintro ⟨first, rfl⟩
    apply hfree
    have hdouble : separator.toList <+: separatorHead.toList ++ separatorHead.toList := by decide
    rw [List.append_assoc]
    exact hdouble.isInfix.trans (List.suffix_append first _).isInfix
  have htext : stem ++ separatorHead.toList ++ separator.toList ++ after =
      stem ++ separator.toList ++ (separatorTail.toList ++ after) := by
    rw [List.append_assoc stem, head_append_separator]
    simp only [List.append_assoc]
  rw [htext]
  exact cut_separator hstem hopen

/-- Exactly the pairs of non-empty names without the separator are encoded, each
as its names around the separator. -/
theorem encode_eq_ok_iff {volumeId backupName id : String} :
    encode volumeId backupName = .ok id ↔
      (volumeId ≠ "" ∧ backupName ≠ "") ∧
        (¬ separator.toList <:+: volumeId.toList ∧ ¬ separator.toList <:+: backupName.toList) ∧
        id = volumeId ++ separator ++ backupName := by
  have hfree : ∀ name, holdsSeparator name = false ↔ ¬ separator.toList <:+: name.toList := by
    intro name
    rw [← Text.occurs_iff, Bool.not_eq_true]
    rfl
  rw [← hfree, ← hfree]
  constructor
  · intro h
    unfold encode at h
    cases hparts : ofParts? volumeId backupName with
    | error cause =>
        rw [hparts] at h
        cases h
    | ok made =>
        rw [hparts] at h
        cases h
        obtain ⟨⟨rfl, rfl⟩, hv, hb⟩ := ofParts?_eq_ok_iff.mp hparts
        exact ⟨⟨made.volumeId_ne, made.backupName_ne⟩, ⟨hv, hb⟩, rfl⟩
  · rintro ⟨⟨hv, hb⟩, ⟨hvfree, hbfree⟩, rfl⟩
    have hparts : ofParts? volumeId backupName = .ok ⟨volumeId, backupName, hv, hb⟩ :=
      ofParts?_eq_ok_iff.mpr ⟨⟨rfl, rfl⟩, hvfree, hbfree⟩
    rw [encode, hparts]
    rfl

/-- A text is decoded to the names around the first separator in it, unless one
of them is empty. -/
theorem decode_eq_ok_iff {s volumeId backupName : String} :
    decode s = .ok (volumeId, backupName) ↔
      (volumeId ≠ "" ∧ backupName ≠ "") ∧
        Text.cut separator.toList s.toList = some (volumeId.toList, backupName.toList) := by
  constructor
  · intro h
    unfold decode at h
    cases hparse : parse s with
    | error cause =>
        rw [hparse] at h
        cases h
    | ok read =>
        rw [hparse] at h
        cases h
        exact ⟨⟨read.volumeId_ne, read.backupName_ne⟩, parse_eq_ok_iff.mp hparse⟩
  · rintro ⟨⟨hv, hb⟩, hcut⟩
    have hparse : parse s = .ok ⟨volumeId, backupName, hv, hb⟩ := parse_eq_ok_iff.mpr hcut
    rw [decode, hparse]
    rfl

/-- What is decoded from a text makes up the text again. -/
theorem append_of_decode {s volumeId backupName : String}
    (h : decode s = .ok (volumeId, backupName)) : s = volumeId ++ separator ++ backupName := by
  have hcut := Text.append_of_cut (decode_eq_ok_iff.mp h).2
  rw [← String.toList_inj]
  simpa using hcut.symm

/-- A pair is read back if its volume does not make a separator of its own. -/
theorem decode_of_encode {volumeId backupName id : String}
    (h : encode volumeId backupName = .ok id) (hopen : ¬ OpensSeparator volumeId) :
    decode id = .ok (volumeId, backupName) := by
  obtain ⟨hne, hfree, rfl⟩ := encode_eq_ok_iff.mp h
  refine decode_eq_ok_iff.mpr ⟨hne, ?_⟩
  rw [String.toList_append, String.toList_append]
  exact cut_separator hfree.1 hopen

/-- Where the identifier of a pair is cut. -/
theorem cut_text {volumeId : String} (backupName : String)
    (hfree : ¬ separator.toList <:+: volumeId.toList) :
    (¬ OpensSeparator volumeId ∧
        Text.cut separator.toList (volumeId ++ separator ++ backupName).toList =
          some (volumeId.toList, backupName.toList)) ∨
      ∃ stem, volumeId.toList = stem ++ separatorHead.toList ∧
        Text.cut separator.toList (volumeId ++ separator ++ backupName).toList =
          some (stem, separatorTail.toList ++ backupName.toList) := by
  have htext : (volumeId ++ separator ++ backupName).toList =
      volumeId.toList ++ separator.toList ++ backupName.toList := by simp
  rw [htext]
  by_cases hopen : OpensSeparator volumeId
  · obtain ⟨stem, hstem⟩ := hopen
    rw [← hstem] at hfree ⊢
    exact .inr ⟨stem, rfl, cut_separator_of_opens hfree⟩
  · exact .inl ⟨hopen, cut_separator hfree hopen⟩

/-- Two pairs of which the one has in the volume name what the other has in the
backup name. -/
def Shifted (volumeId backupName volumeId' backupName' : String) : Prop :=
  volumeId = volumeId' ++ separatorHead ∧ backupName' = separatorTail ++ backupName

/-- Such pairs have one identifier. -/
theorem text_eq_of_shifted {volumeId backupName volumeId' backupName' : String}
    (h : Shifted volumeId backupName volumeId' backupName') :
    volumeId ++ separator ++ backupName = volumeId' ++ separator ++ backupName' := by
  obtain ⟨rfl, rfl⟩ := h
  rw [← String.toList_inj]
  simp only [String.toList_append, List.append_assoc]
  rw [← List.append_assoc separatorHead.toList, head_append_separator, List.append_assoc]

/-- No other pairs have. -/
theorem eq_or_shifted_of_text_eq {volumeId backupName volumeId' backupName' : String}
    (hfree : ¬ separator.toList <:+: volumeId.toList)
    (hfree' : ¬ separator.toList <:+: volumeId'.toList)
    (htext : volumeId ++ separator ++ backupName = volumeId' ++ separator ++ backupName') :
    (volumeId = volumeId' ∧ backupName = backupName') ∨
      Shifted volumeId backupName volumeId' backupName' ∨
      Shifted volumeId' backupName' volumeId backupName := by
  rcases cut_text backupName hfree with ⟨_, hcut⟩ | ⟨stem, hstem, hcut⟩ <;>
    rcases cut_text backupName' hfree' with ⟨_, hcut'⟩ | ⟨stem', hstem', hcut'⟩ <;>
    rw [htext, hcut', Option.some.injEq, Prod.mk.injEq] at hcut
  · exact .inl ⟨(String.toList_inj.mp hcut.1).symm, (String.toList_inj.mp hcut.2).symm⟩
  · refine .inr (.inr ⟨?_, ?_⟩)
    · rw [← String.toList_inj, String.toList_append, hstem', hcut.1]
    · rw [← String.toList_inj, String.toList_append, hcut.2]
  · refine .inr (.inl ⟨?_, ?_⟩)
    · rw [← String.toList_inj, String.toList_append, hstem, hcut.1]
    · rw [← String.toList_inj, String.toList_append, hcut.2]
  · refine .inl ⟨?_, ?_⟩
    · rw [← String.toList_inj, hstem, hstem', hcut.1]
    · have hsame := List.append_cancel_left hcut.2
      exact (String.toList_inj.mp hsame).symm

/-- **Round trip.**  Exactly the pairs of non-empty names without the separator
are encoded.  Such a pair is read back exactly when the volume name does not end
with all of the separator but its last hyphen; and two such pairs have one
identifier exactly when they are the same or the one has that end of its volume
name at the beginning of its backup name in the other. -/
theorem decode_encode_iff (volumeId backupName : String) :
    ((∃ id, encode volumeId backupName = .ok id) ↔
      (volumeId ≠ "" ∧ backupName ≠ "") ∧
        ¬ separator.toList <:+: volumeId.toList ∧ ¬ separator.toList <:+: backupName.toList) ∧
      ∀ id, encode volumeId backupName = .ok id →
        (decode id = .ok (volumeId, backupName) ↔ ¬ OpensSeparator volumeId) ∧
          ∀ volumeId' backupName' id', encode volumeId' backupName' = .ok id' →
            (id = id' ↔
              (volumeId = volumeId' ∧ backupName = backupName') ∨
                Shifted volumeId backupName volumeId' backupName' ∨
                Shifted volumeId' backupName' volumeId backupName) := by
  refine ⟨?_, ?_⟩
  · constructor
    · rintro ⟨id, hid⟩
      obtain ⟨hne, hfree, _⟩ := encode_eq_ok_iff.mp hid
      exact ⟨hne, hfree⟩
    · rintro ⟨hne, hfree⟩
      exact ⟨_, encode_eq_ok_iff.mpr ⟨hne, hfree, rfl⟩⟩
  · intro id hid
    obtain ⟨hne, hfree, rfl⟩ := encode_eq_ok_iff.mp hid
    refine ⟨?_, ?_⟩
    · rw [decode_eq_ok_iff]
      rcases cut_text backupName hfree.1 with ⟨hopen, hcut⟩ | ⟨stem, hstem, hcut⟩
      · exact ⟨fun _ => hopen, fun _ => ⟨hne, hcut⟩⟩
      · constructor
        · rintro ⟨_, hback⟩
          rw [hcut, Option.some.injEq, Prod.mk.injEq, hstem] at hback
          have hlen := congrArg List.length hback.1
          have hhead : separatorHead.toList.length = 11 := by decide
          simp only [List.length_append, hhead] at hlen
          omega
        · intro hopen
          exact absurd ⟨stem, hstem.symm⟩ hopen
    · intro volumeId' backupName' id' hid'
      obtain ⟨_, hfree', rfl⟩ := encode_eq_ok_iff.mp hid'
      constructor
      · exact eq_or_shifted_of_text_eq hfree.1 hfree'.1
      · rintro (⟨rfl, rfl⟩ | h | h)
        · rfl
        · exact text_eq_of_shifted h
        · exact (text_eq_of_shifted h).symm

/-- A pair that is read back, and one with which it shares no identifier. -/
theorem decode_encode_iff_daily :
    encode "pvc-7" "daily-01" = .ok "pvc-7-velero-bkp-daily-01" ∧
      encode "pvc-7" "daily-02" = .ok "pvc-7-velero-bkp-daily-02" ∧
      decode "pvc-7-velero-bkp-daily-01" = .ok ("pvc-7", "daily-01") ∧
      "pvc-7-velero-bkp-daily-01" ≠ "pvc-7-velero-bkp-daily-02" := by
  have hfirst : encode "pvc-7" "daily-01" = .ok "pvc-7-velero-bkp-daily-01" := by decide
  have hsecond : encode "pvc-7" "daily-02" = .ok "pvc-7-velero-bkp-daily-02" := by decide
  obtain ⟨hread, hshared⟩ := (decode_encode_iff "pvc-7" "daily-01").2 _ hfirst
  refine ⟨hfirst, hsecond, hread.mpr (by decide), fun heq => ?_⟩
  rcases (hshared _ _ _ hsecond).mp heq with h | h | h
  · exact absurd h.2 (by decide)
  · exact absurd h.2 (by decide)
  · exact absurd h.2 (by decide)

/-- A pair of non-empty names without the separator that is not read back and
shares its identifier with another. -/
theorem decode_encode_opening :
    encode "pvc-velero-bkp" "full" = .ok "pvc-velero-bkp-velero-bkp-full" ∧
      decode "pvc-velero-bkp-velero-bkp-full" = .ok ("pvc", "velero-bkp-full") ∧
      encode "pvc" "velero-bkp-full" = .ok "pvc-velero-bkp-velero-bkp-full" := by
  refine ⟨?_, ?_, ?_⟩ <;> decide

end SnapshotId

end SnapshotEngine
