import SnapshotEngine.ObjectName

/-!
# Which objects share a name

The name of an object is the backup and the volume with a mark between them, and
both may hold that mark themselves.  So two pairs share an object if what the one has
at the end of its backup, the other has in front of its volume; and in no other way,
since the mark does not begin again within itself.  Volumes without a slash in their
names hold no mark.

* `Overlap`, `remoteName_eq_iff` — which pairs share a name;
* `not_overlap_of_flat`, `objectName_inj` — volumes without a slash share no object;
* `objectNames_collide_iff` — the law of collisions, below any directory.
-/

namespace SnapshotEngine

/-- A volume name without a slash. -/
def Flat (volumeId : String) : Prop := '/' ∉ volumeId.toList

instance (volumeId : String) : Decidable (Flat volumeId) :=
  inferInstanceAs (Decidable ('/' ∉ volumeId.toList))

/-- What is below the directory is the backup, a slash, and the marked volume. -/
theorem toList_remoteName (volumeId backupName : String) :
    (remoteName volumeId backupName).toList =
      backupName.toList ++ '/' :: ((objectMark ++ "-").toList ++ volumeId.toList) := by
  simp [remoteName]

/-- What stands between the backup and the volume. -/
def objectJoint : String := "/" ++ objectMark ++ "-"

/-- The joint does not begin again within itself. -/
theorem objectJoint_drop {k : Nat} {rest : List Char} (hpos : 0 < k)
    (h : objectJoint.toList.drop k = '/' :: rest) : False := by
  have hall : ∀ j ∈ List.range 7, 0 < j → (objectJoint.toList.drop j).head? ≠ some '/' := by decide
  by_cases hlt : k < 7
  · exact hall k (List.mem_range.mpr hlt) hpos (by rw [h]; rfl)
  · have hend : objectJoint.toList.drop k = [] := List.drop_eq_nil_of_le (by
      have hlength : objectJoint.toList.length = 7 := by decide
      omega)
    cases hend.symm.trans h

/-- Two pairs of which the one has at the end of its backup what the other has in
front of its volume. -/
def Overlaps (volumeId backupName volumeId' backupName' : String) : Prop :=
  ∃ between, backupName' = backupName ++ objectJoint ++ between ∧
    volumeId = between ++ objectJoint ++ volumeId'

/-- Two pairs that overlap, in one order or the other. -/
def Overlap (volumeId backupName volumeId' backupName' : String) : Prop :=
  Overlaps volumeId backupName volumeId' backupName' ∨
    Overlaps volumeId' backupName' volumeId backupName

/-- What is in front of a joint and reaches beyond the first one holds that one. -/
theorem eq_joint_append {gap after after' : List Char} (hne : gap ≠ [])
    (h : objectJoint.toList ++ after = gap ++ (objectJoint.toList ++ after')) :
    ∃ between, gap = objectJoint.toList ++ between ∧
      after = between ++ (objectJoint.toList ++ after') := by
  rcases List.append_eq_append_iff.mp h with ⟨between, hgap, hafter⟩ | ⟨tail, hjoint, htail⟩
  · exact ⟨between, hgap, hafter⟩
  · cases tail with
    | nil => exact ⟨[], by simpa using hjoint.symm, by simpa using htail.symm⟩
    | cons c tail =>
        have hhead : objectJoint.toList = '/' :: objectJoint.toList.tail := by decide
        have hc : c = '/' := by
          rw [hhead] at htail
          exact (List.cons.inj htail).1.symm
        subst hc
        have hdrop : objectJoint.toList.drop gap.length = '/' :: tail := by
          rw [hjoint, List.drop_left]
        exact (objectJoint_drop (List.length_pos_iff.mpr hne) hdrop).elim

/-- Two pairs share a name exactly if they are the same or overlap. -/
theorem remoteName_eq_iff {volumeId backupName volumeId' backupName' : String} :
    remoteName volumeId backupName = remoteName volumeId' backupName' ↔
      (volumeId = volumeId' ∧ backupName = backupName') ∨
        Overlap volumeId backupName volumeId' backupName' := by
  have hname : ∀ v b : String, (remoteName v b).toList =
      b.toList ++ (objectJoint.toList ++ v.toList) := by
    intro v b
    rw [toList_remoteName]
    simp [objectJoint]
  have hoverlaps : ∀ {v b v' b' : String} {gap : List Char}, gap ≠ [] →
      b'.toList = b.toList ++ gap →
        objectJoint.toList ++ v.toList = gap ++ (objectJoint.toList ++ v'.toList) →
          Overlaps v b v' b' := by
    intro v b v' b' gap hne hbackup hvolume
    obtain ⟨between, rfl, hv⟩ := eq_joint_append hne hvolume
    refine ⟨String.ofList between, ?_, ?_⟩
    · rw [← String.toList_inj, hbackup]
      simp
    · rw [← String.toList_inj, hv]
      simp
  rw [← String.toList_inj, hname, hname]
  constructor
  · intro h
    rcases List.append_eq_append_iff.mp h with ⟨gap, hbackup, hvolume⟩ | ⟨gap, hbackup, hvolume⟩
    · by_cases hne : gap = []
      · subst hne
        refine .inl ⟨?_, ?_⟩
        · exact String.toList_inj.mp (List.append_cancel_left hvolume)
        · exact String.toList_inj.mp (by simpa using hbackup.symm)
      · exact .inr (.inl (hoverlaps hne hbackup hvolume))
    · by_cases hne : gap = []
      · subst hne
        refine .inl ⟨?_, ?_⟩
        · exact (String.toList_inj.mp (List.append_cancel_left hvolume)).symm
        · exact String.toList_inj.mp (by simpa using hbackup)
      · exact .inr (.inr (hoverlaps hne hbackup hvolume))
  · rintro (⟨rfl, rfl⟩ | ⟨between, rfl, rfl⟩ | ⟨between, rfl, rfl⟩)
    · rfl
    · simp
    · simp

/-- Volumes without a slash do not overlap. -/
theorem not_overlap_of_flat {volumeId backupName volumeId' backupName' : String}
    (hflat : Flat volumeId) (hflat' : Flat volumeId') :
    ¬ Overlap volumeId backupName volumeId' backupName' := by
  have hslash : ∀ between v : String, ¬ Flat (between ++ objectJoint ++ v) := by
    intro between v hflat
    apply hflat
    simp [objectJoint]
  rintro (⟨between, _, rfl⟩ | ⟨between, _, rfl⟩)
  · exact hslash _ _ hflat
  · exact hslash _ _ hflat'

namespace ObjectNamer

/-- An object is determined by what is below the directory. -/
theorem objectName_eq_iff_remoteName {namer : ObjectNamer}
    {volumeId volumeId' backupName backupName' : String} :
    namer.objectName volumeId backupName = namer.objectName volumeId' backupName' ↔
      remoteName volumeId backupName = remoteName volumeId' backupName' := by
  unfold objectName
  split
  · constructor
    · intro h
      apply String.toList_injective
      have hlist := congrArg String.toList h
      simp only [String.toList_append] at hlist
      exact List.append_cancel_left hlist
    · intro h
      rw [h]
  · exact Iff.rfl

/-- Two pairs share an object exactly if they are the same or overlap. -/
theorem objectName_eq_iff {namer : ObjectNamer}
    {volumeId volumeId' backupName backupName' : String} :
    namer.objectName volumeId backupName = namer.objectName volumeId' backupName' ↔
      (volumeId = volumeId' ∧ backupName = backupName') ∨
        Overlap volumeId backupName volumeId' backupName' :=
  objectName_eq_iff_remoteName.trans remoteName_eq_iff

/-- Volumes without a slash in their names share no object. -/
theorem objectName_inj {namer : ObjectNamer} {volumeId volumeId' backupName backupName' : String}
    (hflat : Flat volumeId) (hflat' : Flat volumeId')
    (h : namer.objectName volumeId backupName = namer.objectName volumeId' backupName') :
    volumeId = volumeId' ∧ backupName = backupName' :=
  (objectName_eq_iff.mp h).resolve_right (not_overlap_of_flat hflat hflat')

/-- **Collisions.**  However objects are named, two different pairs share one exactly if the
one backup goes on, behind the other, with the joint and a text, and the other volume starts
with that text and the joint, in front of the one; so of volumes without a slash no two
pairs share an object, whatever the backups are called. -/
theorem objectNames_collide_iff (namer : ObjectNamer) :
    (∀ volumeId backupName volumeId' backupName' : String,
      (volumeId, backupName) ≠ (volumeId', backupName') →
        (namer.objectName volumeId backupName = namer.objectName volumeId' backupName' ↔
          (∃ between, backupName = backupName' ++ "/cstor-" ++ between ∧
            volumeId' = between ++ "/cstor-" ++ volumeId) ∨
          ∃ between, backupName' = backupName ++ "/cstor-" ++ between ∧
            volumeId = between ++ "/cstor-" ++ volumeId')) ∧
      Function.Injective fun pair : { pair : String × String // '/' ∉ pair.1.toList } =>
        namer.objectName pair.1.1 pair.1.2 := by
  have hjoint : "/cstor-" = objectJoint := by decide
  constructor
  · intro volumeId backupName volumeId' backupName' hne
    have hpairs : ¬ (volumeId = volumeId' ∧ backupName = backupName') :=
      fun hsame => hne (Prod.ext hsame.1 hsame.2)
    rw [hjoint, objectName_eq_iff, or_iff_right hpairs]
    exact Or.comm
  · rintro ⟨⟨volumeId, backupName⟩, hflat⟩ ⟨⟨volumeId', backupName'⟩, hflat'⟩ hsame
    obtain ⟨hvolume, hbackup⟩ := objectName_inj hflat hflat' hsame
    exact Subtype.ext (Prod.ext hvolume hbackup)

/-- Two backups below a directory that share an object, and two that do not although one of
them holds the joint. -/
theorem objectNames_collide_iff_daily :
    let namer := ofSetting (some " /site/ ")
    (namer.objectName "pvc-7" "daily/cstor-a" = namer.objectName "a/cstor-pvc-7" "daily" ∧
      namer.objectName "pvc-7" "daily/cstor-a" = "site/backups/daily/cstor-a/cstor-pvc-7") ∧
      namer.objectName "pvc-7" "daily/cstor-a" ≠ namer.objectName "pvc-8" "daily/cstor-a" := by
  intro namer
  have hne : ("pvc-7", "daily/cstor-a") ≠ ("a/cstor-pvc-7", "daily") := by decide
  have hother : ("pvc-7", "daily/cstor-a") ≠ ("pvc-8", "daily/cstor-a") := by decide
  obtain ⟨hcollide, hinjective⟩ := objectNames_collide_iff namer
  refine ⟨⟨(hcollide _ _ _ _ hne).mpr (.inl ⟨"a", by decide, by decide⟩), by decide⟩, ?_⟩
  intro hsame
  have hpairs := @hinjective ⟨("pvc-7", "daily/cstor-a"), by decide⟩
    ⟨("pvc-8", "daily/cstor-a"), by decide⟩ hsame
  exact hother (congrArg Subtype.val hpairs)

end ObjectNamer

end SnapshotEngine
