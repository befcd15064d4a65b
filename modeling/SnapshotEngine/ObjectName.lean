import SnapshotEngine.Text.Blank
import SnapshotEngine.Text.Cut

/-!
# Names of stored objects

The data of a backup is one object in the object store.  Its name is the backup
and the volume, below an optional directory that a site sets for all of its
objects: `site/backups/daily-01/cstor-pvc-7`.

The directory is used without the white space around it and then without the
slashes around it; a directory of which nothing is left is no directory.

Backups of a series are named with a hyphen and a running part; the series is
the name without that last part.

* `seriesName_append` — the series of a name with a running part;
* `blank_seriesName_iff` — which names have a series without a name.
-/

namespace SnapshotEngine

/-- The word in front of every volume in an object name. -/
def objectMark : String := "cstor"

/-- The part of an object name that tells a backup of a volume from all
others. -/
def remoteName (volumeId backupName : String) : String :=
  backupName ++ "/" ++ objectMark ++ "-" ++ volumeId

/-- The series that a backup belongs to: its name up to the last hyphen, or
the whole name. -/
def seriesName (backupName : String) : String :=
  match Text.cutLast '-' backupName.toList with
  | some (before, _) => String.ofList before
  | none => backupName

/-- How objects are named: below a directory, or not. -/
structure ObjectNamer where
  directory : Option String
deriving DecidableEq, Repr

namespace ObjectNamer

/-- Objects below no directory. -/
def plain : ObjectNamer := ⟨none⟩

instance : Inhabited ObjectNamer := ⟨plain⟩

/-- What is used of a directory setting. -/
def effective (setting : String) : String :=
  String.ofList (Text.strip (· = '/') (Text.trim setting).toList)

/-- The namer for a directory setting. -/
def ofSetting (setting : Option String) : ObjectNamer :=
  ⟨(setting.map effective).filter (· ≠ "")⟩

/-- The name of the object that holds a backup of a volume. -/
def objectName (namer : ObjectNamer) (volumeId backupName : String) : String :=
  match namer.directory with
  | some directory => directory ++ "/backups/" ++ remoteName volumeId backupName
  | none => remoteName volumeId backupName

end ObjectNamer

/-- The series of a name with a running part. -/
theorem seriesName_append {series running : String} (h : '-' ∉ running.toList) :
    seriesName (series ++ "-" ++ running) = series := by
  have hcut : ∀ cs : List Char,
      Text.cutLast '-' (cs ++ '-' :: running.toList) = some (cs, running.toList) := by
    intro cs
    induction cs with
    | nil => simp [Text.cutLast, Text.cutLast_eq_none_iff.2 h]
    | cons c cs ih => simp [Text.cutLast, ih]
  have hlist : (series ++ "-" ++ running).toList = series.toList ++ '-' :: running.toList := by
    simp
  rw [seriesName, hlist, hcut]
  simp

/-- A name that has nothing but white space before its last hyphen. -/
def Headless (backupName : String) : Prop :=
  ∃ lead running, backupName = lead ++ "-" ++ running ∧ '-' ∉ running.toList ∧ Text.blank lead

/-- A series goes without a name if the backup does, or if nothing stands before the
running part of its name. -/
theorem blank_seriesName_iff {backupName : String} :
    Text.blank (seriesName backupName) ↔ Text.blank backupName ∨ Headless backupName := by
  constructor
  · intro h
    unfold seriesName at h
    split at h
    · rename_i before after hcut
      refine .inr ⟨String.ofList before, String.ofList after, ?_, ?_, h⟩
      · rw [← String.toList_inj]
        simpa using (Text.append_of_cutLast hcut).symm
      · simpa using Text.not_mem_of_cutLast hcut
    · exact .inl h
  · rintro (hblank | ⟨lead, running, rfl, hrunning, hlead⟩)
    · -- a hyphen is no white space, so the whole name is the series
      have hwhole : Text.cutLast '-' backupName.toList = none := by
        refine Text.cutLast_eq_none_iff.mpr fun hmem => ?_
        exact absurd (List.all_eq_true.mp hblank '-' hmem) (by decide)
      rw [seriesName, hwhole]
      exact hblank
    · rw [seriesName_append hrunning]
      exact hlead

end SnapshotEngine
